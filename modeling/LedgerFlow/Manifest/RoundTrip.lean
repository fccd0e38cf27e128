import LedgerFlow.Manifest.Verification

/-!
# The round trip of a manifest

A manifest that is built verifies, as long as its numbers can be printed; what verifies
agrees with the file in five values; and a manifest of other bytes does not. A file of two
records shows the limit on numbers, a file with a refund the round trip.
-/

namespace LedgerFlow.Manifests

open PyText PyJson PyBytes Grouping

section RoundTrip

variable {library : Library} {files : Files} {data manifestPath : Path} {manifest : Manifest}

/-- A dictionary with the entries of a manifest, in any order, agrees with it. The keys are
distinct, so looking one up does not depend on the order. -/
theorem agrees_perm {given : Fields} (same : given.Perm manifest.fields)
    (formed : manifest.WellFormed) : Agrees library given manifest := by
  have entry (name : String) : get given (str name) = get manifest.fields (str name) :=
    Keyed.lookup_perm ((same.map Prod.fst).nodup_iff.mpr (manifest_keyed manifest)) same _
  have totals : totalsHeld library manifest.totals
      (some (.obj (totalFields manifest.totals))) = true := by
    have keyed : Keyed Prod.fst (totalFields manifest.totals) := by
      rw [Keyed, totalFields, List.map_map]
      exact formed.keyed
    refine (Bool.and_eq_true ..).mpr
      ⟨decide_eq_true (List.length_map _).symm, List.all_eq_true.mpr fun total listed => ?_⟩
    have found : get (totalFields manifest.totals) total.1 = some (.int total.2) :=
      keyed.lookup_mem.mpr (List.mem_map.mpr ⟨total, listed, rfl⟩)
    rw [totalHeld, found]
    exact decide_eq_true rfl
  constructor
  · rw [entry, equals_text_iff]
    rfl
  · rw [entry]
    exact decide_eq_true rfl
  · rw [entry, equals_text_iff]
    rfl
  · rw [entry]
    exact decide_eq_true rfl
  · rw [entry]
    exact totals

/-- The manifest that was just built verifies against the data file, provided that the two files
have different paths and the numbers can be printed. -/
theorem verify_built (apart : data ≠ manifestPath)
    (recomputed : recompute library files data = .ok manifest) (printable : manifest.Printable) :
    ∃ read, (verifyManifest library data manifestPath
        (files.write manifestPath (utf8 manifest.text))).1 = .ok read ∧
      read.Perm manifest.fields := by
  have formed := recompute_well_formed recomputed
  have same := sorted_entries_perm formed.sorted
  refine ⟨sortedEntries manifest.fields, ?_, same⟩
  refine (verify_manifest_ok (read_manifest_text (manifest_readable formed printable)
    (write_same ..))).mpr ⟨rfl, manifest, ?_, agrees_perm same formed⟩
  rw [recompute_write apart, recomputed]

/-- A manifest of other bytes, with another digest, does not verify: the recomputed digest differs
from the one that it states. -/
theorem verify_other {given : Fields} (read : readJson library files manifestPath = .ok (.obj given))
    (same : given.Perm manifest.fields) {content : Bytes} (holds : files data = some content)
    (digests : library.sha256 content ≠ manifest.sha256) {returned : Fields} :
    (verifyManifest library data manifestPath files).1 ≠ .ok returned := by
  intro verified
  obtain ⟨_, actual, recomputed, agrees⟩ := (verify_manifest_ok read).mp verified
  obtain ⟨events, other, _, held, rfl⟩ := recompute_ok.mp recomputed
  cases held.symm.trans holds
  have stated := equals_text_iff.mp agrees.sha256
  have entry : get given (str "sha256") = get manifest.fields (str "sha256") :=
    Keyed.lookup_perm ((same.map Prod.fst).nodup_iff.mpr (manifest_keyed manifest)) same _
  rw [entry] at stated
  exact digests (Subtype.ext (Json.str.inj (Option.some.inj stated)).symm)

end RoundTrip

/-! ## Two files -/

/-- A record of an amount of dollars. -/
def dollars (amount : Json) : Fields :=
  [(str "amount_minor", amount), (str "currency", .str (str "USD"))]

/-- A refund, and a record whose amount is a truth value. -/
def refundEvents : List Fields := [dollars (.int (-250)), dollars (.bool true)]

/-- The digest of the file of `refundEvents`. -/
def refundDigest : AsciiText :=
  ⟨str "66bfe42be41f3a63339d653465747bc64ae633ad7010d1b631f23cd743e41db2", by decide⟩

/-- The digest of the file of `largeEvents`. -/
def largeDigest : AsciiText :=
  ⟨str "2583babc28c6a30ab650edcf32285bfc878498af2fcfa010dc4037dff48a5469", by decide⟩

/-- The digests of the two files; no float occurs in them. -/
def manifestLibrary : Library where
  sha256 content := if content = jsonLines refundEvents then refundDigest else largeDigest
  readFloat numeral := if ascii : Ascii numeral then ⟨numeral, ascii⟩ else ⟨[], ascii_nil⟩
  floatEquals _ _ := false
  float_bound _ _ := nofun

/-- A path whose name is ASCII. -/
def asciiPath (directory name : Str) (ascii : Ascii name) : Path where
  directory := directory
  name := name
  encodable := ascii.not_high

/-- The path of the data. -/
def sampleData : Path := asciiPath (str "data/raw") (str "payments.jsonl") (by decide)

end LedgerFlow.Manifests
