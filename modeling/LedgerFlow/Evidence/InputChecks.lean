import LedgerFlow.Evidence.Laboratory
import LedgerFlow.Simulator.Sizes

/-!
# The input of the laboratory

A generated batch is written, its manifest is built, and the manifest verifies; the data file
stays as it was written. The manifest with another digest is refused by its checksum, before
anything is built again.
-/

namespace LedgerFlow.Evidence

open PyText PyJson PyBytes Grouping Manifests Simulator

/-! ## Manifests -/

section Manifest

variable {library : Library} {files : Files} {data path : Path} {manifest : Manifest}

/-- Building a manifest writes no file but the manifest's own, whether or not it succeeds. -/
theorem build_manifest_keeps {other : Path} (apart : other ≠ path) :
    (buildManifest library data path files).2 other = files other := by
  unfold buildManifest
  split
  · rfl
  · split
    · rfl
    · exact write_other files _ apart

/-- Verification changes no file but the one that it builds again beside the manifest. -/
theorem verify_manifest_keeps {other : Path} (apart : other ≠ rebuiltPath path) :
    (verifyManifest library data path files).2 other = files other := by
  unfold verifyManifest
  split
  · rfl
  · exact (if_neg apart).trans (build_manifest_keeps apart)

/-- A manifest that can be printed is built and verifies, and the data file is kept. -/
theorem built_verifies (recomputed : recompute library files data = .ok manifest)
    (printable : manifest.Printable) (apart : data ≠ path) (temporary : data ≠ rebuiltPath path) :
    (buildManifest library data path files).1 = .ok manifest ∧ ∃ verified left,
      verifyManifest library data path (buildManifest library data path files).2 =
        (.ok verified, left) ∧ left data = files data := by
  rcases @build_manifest_ok _ _ path _ _ recomputed with ⟨_, built⟩ | ⟨refused, _⟩
  · obtain ⟨verified, checked, _⟩ := verify_built apart recomputed printable
    have kept := @verify_manifest_keeps library (files.write path (utf8 manifest.text)) data path
      data temporary
    rw [built]
    exact ⟨rfl, verified, _, Prod.ext checked rfl, kept.trans (write_other files _ apart)⟩
  · exact absurd printable refused

/-- Another digest is found once the name and the size have been compared. -/
theorem check_source_digest {given : Fields} {content : Bytes} (holds : files data = some content)
    (name : equalsText (get given (str "file_name")) data.name = true)
    (size : (get given (str "byte_size")).any (equalsInt library.floatEquals content.length) = true)
    (digest : equalsText (get given (str "sha256")) (library.sha256 content).1 = false) :
    checkSource library data files given =
      .error (.manifest (str "manifest_checksum_mismatch")) := by
  simp [checkSource, readBytes, holds, name, size, digest, checkThat, bind, Except.bind]

/-- A manifest of the file's name and size, with another digest, is refused by its checksum. -/
theorem verify_redigested {content : Bytes} (formed : manifest.WellFormed)
    (printable : manifest.Printable) (holds : files data = some content)
    (name : manifest.fileName = data.name) (size : manifest.byteSize = content.length)
    (differs : library.sha256 content ≠ manifest.sha256) (apart : data ≠ path) :
    (verifyManifest library data path (files.write path (utf8 manifest.text))).1 =
      .error (.manifest (str "manifest_checksum_mismatch")) := by
  have decoded := @read_manifest_text library _ _ _ (manifest_readable formed printable)
    (write_same files path (utf8 manifest.text))
  have agrees := @agrees_perm library _ _ (sorted_entries_perm formed.sorted) formed
  have kept : files.write path (utf8 manifest.text) data = some content :=
    (write_other files _ apart).trans holds
  have wrong : equalsText (get (sortedEntries manifest.fields) (str "sha256"))
      (library.sha256 content).1 = false := by
    rw [equals_text_iff.mp agrees.sha256, equalsText]
    exact decide_eq_false fun same => differs (Subtype.ext same.symm)
  have source := check_source_digest kept (name ▸ agrees.fileName) (size ▸ agrees.byteSize) wrong
  rw [verifyManifest, readManifest, decoded]
  simp only [bind, Except.bind, source]

end Manifest

/-! ## The prepared input -/

section Input

variable {laboratory : Laboratory} {registry : Registry} {records seed : Int}

/-- The arrivals of a batch, with its valid events shuffled by the seed. -/
def arrivalsOf (laboratory : Laboratory) (seed : Int) {sources : List Source}
    (batch : Batch sources) : List Fields :=
  laboratory.shuffle seed batch.valid ++ (duplicatesOf batch.valid ++ batch.fixtures)

/-- The input is a batch of the generator, its file and its manifest. -/
structure Prepared (laboratory : Laboratory) (registry : Registry) (records seed : Int)
    (batch : Batch (lifecycleSources registry)) (input : Input) : Prop where
  generated : generateArrivals laboratory.shuffle registry records seed =
    .ok (arrivalsOf laboratory seed batch, batch.valid, batch.lifecycles.length)
  written : input.files (rawPath laboratory.work) =
    some (jsonLines (arrivalsOf laboratory seed batch))
  read : iterJsonl laboratory.library input.files (rawPath laboratory.work) =
    .ok ((arrivalsOf laboratory seed batch).map sortedEntries)
  manifest : input.manifest = manifestOf laboratory.library (rawPath laboratory.work)
    (jsonLines (arrivalsOf laboratory seed batch))
    ((arrivalsOf laboratory seed batch).map sortedEntries)
  printable : input.manifest.Printable

/-- A batch has fewer arrivals than five million million, which keeps every sum over them within
64 bits. -/
theorem arrivals_few {sources : List Source} (batch : Batch sources)
    (permutes : ∀ seed events, (laboratory.shuffle seed events).Perm events) :
    (arrivalsOf laboratory seed batch).length ≤ 5000000000000 := by
  have valid := batch.valid_length
  have transactions := batch.lifecycles_bound
  have repeated := duplicates_length batch.valid
  have fixtures : batch.fixtures.length = 4 := rfl
  rw [arrivalsOf, List.length_append, List.length_append, (permutes seed batch.valid).length_eq,
    fixtures]
  omega

/-- The files that a profile writes into its work directory have different names, so none
overwrites another. -/
theorem work_paths_apart (work : Str) : rawPath work ≠ manifestPath work ∧
    rawPath work ≠ corruptedPath work ∧ rawPath work ≠ rebuiltPath (manifestPath work) := by
  have names : str "payment_events.jsonl" ≠ str "payment_events.manifest.json" ∧
      str "payment_events.jsonl" ≠ str "corrupted.manifest.json" ∧
      str "payment_events.jsonl" ≠
        stem (str "payment_events.manifest.json") ++ str ".verification.tmp" := by decide
  exact ⟨fun same => names.1 (congrArg Path.name same),
    fun same => names.2.1 (congrArg Path.name same),
    fun same => names.2.2 (congrArg Path.name same)⟩

/-- The input of a profile is prepared: for a hundred to a million records the generator returns,
the file is written and the manifest verifies against it, whatever the seed. -/
theorem prepare_input_ok (permutes : ∀ seed events, (laboratory.shuffle seed events).Perm events)
    (supplies : Supplies registry) (least : 100 ≤ records) (most : records ≤ 1000000)
    (files : Files) :
    ∃ batch input, prepareInput laboratory registry records seed files = .ok input ∧
      Prepared laboratory registry records seed batch input := by
  obtain ⟨⟨arrivals, valid, transactions⟩, generated⟩ :=
    @generate_arrivals_within laboratory.shuffle registry records seed supplies.nonempty least most
  obtain ⟨batch, rfl, rfl, _, rfl⟩ := generate_arrivals_batch supplies.identified generated
  have permuted := permutes seed batch.valid
  obtain ⟨raw, _, temporary⟩ := work_paths_apart laboratory.work
  have holds := write_same files (rawPath laboratory.work)
    (jsonLines (arrivalsOf laboratory seed batch))
  have read := @iter_written laboratory.library _ _ _ (batch.readable permuted rfl) holds
  have recomputed := recompute_ok.mpr ⟨_, _, read, holds, rfl⟩
  have printable := sized_printable laboratory.library (rawPath laboratory.work)
    (batch.sized permuted) (arrivals_few batch permutes)
  obtain ⟨built, verified, left, checked, kept⟩ :=
    built_verifies recomputed printable raw temporary
  obtain ⟨report, made⟩ : ∃ report, generatePaymentEvents laboratory.shuffle registry records
      (rawPath laboratory.work) seed files = .ok (report, files.write (rawPath laboratory.work)
        (jsonLines (arrivalsOf laboratory seed batch))) := by
    rw [generatePaymentEvents, generated]
    exact ⟨_, rfl⟩
  refine ⟨batch, ⟨report, _, verified, left⟩, ?_, generated, kept.trans holds,
    iter_written (batch.readable permuted rfl) (kept.trans holds), rfl, printable⟩
  refine bind_ok.mpr ⟨_, congrArg ofPy made, bind_ok.mpr ⟨_, congrArg ofFile built, ?_⟩⟩
  refine bind_ok.mpr ⟨verified, congrArg ofFile (congrArg Prod.fst checked), ?_⟩
  exact congrArg (fun after => Except.ok (Input.mk _ _ verified after)) (congrArg Prod.snd checked)

/-- The corrupted manifest is refused, unless the data file has a digest of zeros. -/
theorem corrupt_blocked {batch : Batch (lifecycleSources registry)} {input : Input}
    (prepared : Prepared laboratory registry records seed batch input)
    (differs : laboratory.library.sha256 (jsonLines (arrivalsOf laboratory seed batch)) ≠
      zeroDigest) : corruptBlocked laboratory input = .ok true := by
  let corrupted : Manifest := { input.manifest with sha256 := zeroDigest }
  have made := @manifest_well_formed laboratory.library (rawPath laboratory.work)
    (jsonLines (arrivalsOf laboratory seed batch)) _ (iter_decoded prepared.read)
  rw [← prepared.manifest] at made
  have formed : corrupted.WellFormed := ⟨made.fileName, made.currencies, made.keyed, made.sorted⟩
  have printable : corrupted.Printable := ⟨prepared.printable.byteSize,
    prepared.printable.recordCount, prepared.printable.totals⟩
  have name : corrupted.fileName = (rawPath laboratory.work).name :=
    congrArg Manifest.fileName prepared.manifest
  have size : corrupted.byteSize = (jsonLines (arrivalsOf laboratory seed batch)).length :=
    congrArg Manifest.byteSize prepared.manifest
  have refused := verify_redigested formed printable prepared.written name size differs
    (work_paths_apart laboratory.work).2.1
  rcases json_dumps_manifest corrupted with ⟨_, dumped⟩ | ⟨unprintable, _⟩
  · refine bind_ok.mpr ⟨corrupted.text, congrArg ofFile dumped, ?_⟩
    dsimp only
    rw [refused]
  · exact absurd printable unprintable

end Input

end LedgerFlow.Evidence
