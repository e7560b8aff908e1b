import ClassroomSuite.Config.Validator

/-!
# Bad content and the exceptions it raises

Whatever a configuration file holds, its validation is meant to end in a report. Two kinds of
content escape: bytes that are not UTF-8, whose decoding raises an exception of its own, and an
`apiVersion` or `kind` that cannot be looked up in the set of supported values (a list, a mapping)
or, being none of them, cannot be written into the message (an integer of too many digits). On
everything else that the YAML loader does not choke on, the pipeline reports.

`contentReported_iff` states this for files read without overrides.

Source: `cli/src/bcs/config/loader.py`, `cli/src/bcs/config/validator.py`.

## Main definitions

* `BadContent`, `ContentReported`: what is to be reported, and that it is.
* `ContentHandled`: the content that does not escape.

## Main results

* `load_of_handled`, `load_escapes`: the exceptions of loading.
* `contentReported_iff`.
-/

namespace ClassroomSuite.Config

open Python Library

variable {rt : ConfigRuntime} {host : Host} {loader : ConfigLoader} {source : PurePath}
  {bytes : List UInt8}

/-- The content of a file that cannot be a configuration: its root is no mapping, its envelope is
not a supported one, or it does not fit the schema. -/
def BadContent (rt : ConfigRuntime) (bytes : List UInt8) : Prop :=
  ∃ text root, readText bytes = some text ∧ rt.safeLoad text = .ok root ∧
    ∀ d : Document, root = .dict d →
      isTextAmong supportedApiVersions (d.get "apiVersion") = false ∨
        isTextAmong supportedKinds (d.get "kind") = false ∨ ∃ e, rt.modelValidate d = .error e

/-- A value can be looked up among the supported texts and, if it is none of them, be written out.
-/
def FieldReportable (rt : ConfigRuntime) (supported : List String) (value : Yaml) : Prop :=
  value.isSearchable = true ∧
    (isTextAmong supported value = false → ∃ text, rt.reprYaml value = .ok text)

/-- The `apiVersion` can be reported on and, where it is supported, so can the `kind`. -/
def EnvelopeReportable (rt : ConfigRuntime) (d : Document) : Prop :=
  FieldReportable rt supportedApiVersions (d.get "apiVersion") ∧
    (isTextAmong supportedApiVersions (d.get "apiVersion") = true →
      FieldReportable rt supportedKinds (d.get "kind"))

/-- The bytes are UTF-8, the YAML loader raises no exception but its own on them and, if a mapping
is loaded from them, its envelope can be reported on. -/
def ContentHandled (rt : ConfigRuntime) (bytes : List UInt8) : Prop :=
  ∃ text, readText bytes = some text ∧ (∀ e, rt.safeLoad text ≠ .error (.other e)) ∧
    ∀ d, rt.safeLoad text = .ok (.dict d) → EnvelopeReportable rt d

/-- The file is reported on, with an error if its content is bad; loading it raises no exception
but the one for invalid configurations; and the host diagnosis, when this is the file it finds,
has a result. -/
structure ContentReported (rt : ConfigRuntime) (host : Host) (loader : ConfigLoader)
    (source : PurePath) (bytes : List UInt8) : Prop where
  report : ∃ r, validateDocument rt host loader source = .ok r ∧
    (BadContent rt bytes → r.errors ≠ [])
  load : ∀ e, loader.load rt host (some source) = .error e → ∃ m es, e = .configInvalid m es
  check : loader.resolvePath host = .ok source → ∃ r, checkConfig rt host loader = .ok r

/-- An exception that is none of the two errors of the program. -/
def Foreign : ConfigException → Prop
  | .usage _ | .configInvalid _ _ => False
  | _ => True

/-! ### The envelope and the schema -/

/-- A field that can be reported on is supported, or an invalid configuration. -/
theorem requireSupported_of_reportable (source : PurePath) (field : String)
    {supported : List String} {value : Yaml} (h : FieldReportable rt supported value) :
    (isTextAmong supported value = true ∧
        requireSupported rt source field value supported = .ok ()) ∨
      ∃ m es, requireSupported rt source field value supported = .error (.configInvalid m es) := by
  rw [requireSupported, inTextSet, if_pos h.1]
  cases hamong : isTextAmong supported value with
  | true => exact Or.inl ⟨rfl, rfl⟩
  | false =>
    obtain ⟨text, htext⟩ := h.2 hamong
    right
    change ∃ m es, Except.error (unrecognized rt source field value supported) =
      .error (.configInvalid m es)
    rw [unrecognized, htext]
    exact ⟨_, _, rfl⟩

/-- A field that cannot be reported on raises another exception. -/
theorem requireSupported_escapes (source : PurePath) (field : String) {supported : List String}
    {value : Yaml} (h : ¬ FieldReportable rt supported value) :
    ∃ e, Foreign e ∧ requireSupported rt source field value supported = .error e := by
  rw [requireSupported, inTextSet]
  by_cases hsearchable : value.isSearchable = true
  · rw [if_pos hsearchable]
    obtain ⟨hamong, hrepr⟩ : isTextAmong supported value = false ∧
        ∀ text, rt.reprYaml value ≠ .ok text := by
      simpa [FieldReportable, hsearchable] using h
    rw [hamong]
    cases hwritten : rt.reprYaml value with
    | ok text => exact absurd hwritten (hrepr text)
    | error text =>
      refine ⟨.other text, trivial, ?_⟩
      change Except.error (unrecognized rt source field value supported) = _
      rw [unrecognized, hwritten]
  · rw [if_neg hsearchable]
    exact ⟨.typeError, trivial, rfl⟩

/-- An envelope that cannot be reported on makes validation raise another exception. -/
theorem parseClassroomConfig_escapes (source : PurePath) {d : Document}
    (h : ¬ EnvelopeReportable rt d) :
    ∃ e, Foreign e ∧ parseClassroomConfig rt d source = .error e := by
  unfold parseClassroomConfig
  by_cases hversion : FieldReportable rt supportedApiVersions (d.get "apiVersion")
  · obtain ⟨hamong, hkind⟩ : isTextAmong supportedApiVersions (d.get "apiVersion") = true ∧
        ¬ FieldReportable rt supportedKinds (d.get "kind") := by
      simpa [EnvelopeReportable, hversion] using h
    obtain ⟨e, hforeign, he⟩ := requireSupported_escapes source "kind" hkind
    rcases requireSupported_of_reportable source "apiVersion" hversion with ⟨-, hok⟩ | ⟨m, es, hm⟩
    · rw [hok, he]
      exact ⟨e, hforeign, rfl⟩
    · rw [requireSupported, inTextSet, if_pos hversion.1, hamong] at hm
      cases hm
  · obtain ⟨e, hforeign, he⟩ := requireSupported_escapes source "apiVersion" hversion
    rw [he]
    exact ⟨e, hforeign, rfl⟩

/-- The result on an envelope that can be reported on. -/
theorem parseClassroomConfig_of_reportable (source : PurePath) {d : Document}
    (h : EnvelopeReportable rt d) :
    (∃ m es, parseClassroomConfig rt d source = .error (.configInvalid m es)) ∨
      ∃ config, parseClassroomConfig rt d source = .ok config ∧
        isTextAmong supportedApiVersions (d.get "apiVersion") = true ∧
        isTextAmong supportedKinds (d.get "kind") = true ∧ rt.modelValidate d = .ok config := by
  unfold parseClassroomConfig
  rcases requireSupported_of_reportable source "apiVersion" h.1 with ⟨hversion, hok⟩ | ⟨m, es, hm⟩
  · rw [hok]
    rcases requireSupported_of_reportable source "kind" (h.2 hversion) with
      ⟨hkind, hok'⟩ | ⟨m, es, hm⟩
    · rw [hok']
      change (∃ m es, validateSchema rt d source = .error (.configInvalid m es)) ∨
        ∃ config, validateSchema rt d source = .ok config ∧ _
      rw [validateSchema]
      cases rt.modelValidate d with
      | ok config => exact Or.inr ⟨config, rfl, hversion, hkind, rfl⟩
      | error e => exact Or.inl ⟨_, _, rfl⟩
    · rw [hm]
      exact Or.inl ⟨m, es, rfl⟩
  · rw [hm]
    exact Or.inl ⟨m, es, rfl⟩

/-! ### Loading -/

/-- Loading without overrides, from the bytes of the file. -/
theorem load_of_read (hloader : loader.NoOverride) (hread : host.readFile source = .ok bytes) :
    loader.load rt host (some source) = match readText bytes with
      | none => .error .unicodeDecodeError
      | some text =>
        parseDocument rt source text >>= fun d => parseClassroomConfig rt d source := by
  rw [load_eq, loader.loadRaw_of_no_override rt host hloader, readDocumentText, hread]
  dsimp only
  cases readText bytes <;> rfl

/-- Content that is not handled makes loading raise an exception of another kind. -/
theorem load_escapes (hloader : loader.NoOverride) (hread : host.readFile source = .ok bytes)
    (h : ¬ ContentHandled rt bytes) :
    ∃ e, Foreign e ∧ loader.load rt host (some source) = .error e := by
  rw [load_of_read hloader hread]
  cases htext : readText bytes with
  | none => exact ⟨.unicodeDecodeError, trivial, rfl⟩
  | some text =>
    dsimp only
    rw [parseDocument]
    by_cases hother : ∃ e, rt.safeLoad text = .error (.other e)
    · obtain ⟨e, he⟩ := hother
      rw [he]
      exact ⟨.other e, trivial, rfl⟩
    · obtain ⟨d, hd, henvelope⟩ : ∃ d, rt.safeLoad text = .ok (.dict d) ∧
          ¬ EnvelopeReportable rt d := by
        by_contra hall
        exact h ⟨text, htext, not_exists.mp hother,
          fun d hd => by_contra fun henvelope => hall ⟨d, hd, henvelope⟩⟩
      rw [hd]
      exact parseClassroomConfig_escapes source henvelope

/-- Handled content is loaded only if it is not bad, and otherwise raises the exception for
invalid configurations. -/
theorem load_of_handled (hloader : loader.NoOverride) (hread : host.readFile source = .ok bytes)
    (h : ContentHandled rt bytes) :
    (∃ m es, loader.load rt host (some source) = .error (.configInvalid m es)) ∨
      (∃ config, loader.load rt host (some source) = .ok config) ∧ ¬ BadContent rt bytes := by
  obtain ⟨text, htext, hother, henvelope⟩ := h
  rw [load_of_read hloader hread, htext]
  dsimp only
  rw [parseDocument]
  cases hroot : rt.safeLoad text with
  | error e =>
    cases e with
    | yamlError e => exact Or.inl ⟨_, _, rfl⟩
    | other e => exact absurd hroot (hother e)
  | ok root =>
    cases root with
    | dict d =>
      change (∃ m es, parseClassroomConfig rt d source = .error (.configInvalid m es)) ∨
        (∃ config, parseClassroomConfig rt d source = .ok config) ∧ _
      rcases parseClassroomConfig_of_reportable source (henvelope d hroot) with
        herror | ⟨config, hconfig, hversion, hkind, hvalid⟩
      · exact Or.inl herror
      · refine Or.inr ⟨⟨config, hconfig⟩, ?_⟩
        rintro ⟨text', root, htext', hroot', hbad⟩
        obtain rfl : text = text' := Option.some.inj (htext.symm.trans htext')
        have hdict : root = .dict d := Except.ok.inj (hroot'.symm.trans hroot)
        simpa [hversion, hkind, hvalid] using hbad d hdict
    | _ => exact Or.inl ⟨_, _, rfl⟩

/-- A configuration file read without overrides is reported on, whatever is wrong with it, exactly
when its bytes are UTF-8, the YAML loader raises no exception but its own, and the envelope of its
mapping can be looked up and, where it is not supported, written out. -/
theorem contentReported_iff (hloader : loader.NoOverride)
    (hread : host.readFile source = .ok bytes) :
    ContentReported rt host loader source bytes ↔ ContentHandled rt bytes := by
  constructor
  · intro h
    by_contra hcontent
    obtain ⟨r, hr, -⟩ := h.report
    rw [validateDocument_eq] at hr
    obtain ⟨e, hforeign, hload⟩ := load_escapes hloader hread hcontent
    rw [hload] at hr
    cases e with
    | usage m => exact hforeign
    | configInvalid m es => exact hforeign
    | _ => cases hr
  · intro h
    obtain ⟨r, hr, herrors⟩ : ∃ r, validateDocument rt host loader source = .ok r ∧
        (BadContent rt bytes → r.errors ≠ []) := by
      rw [validateDocument_eq]
      rcases load_of_handled hloader hread h with ⟨m, es, hload⟩ | ⟨⟨config, hload⟩, hgood⟩
      · rw [hload]
        exact ⟨_, rfl, fun _ => schemaFindings_ne_nil m es⟩
      · rw [hload]
        exact ⟨_, rfl, fun hbad => absurd hbad hgood⟩
    refine ⟨⟨r, hr, herrors⟩, fun e he => ?_, fun hfound => ?_⟩
    · rcases load_of_handled hloader hread h with ⟨m, es, hload⟩ | ⟨⟨config, hload⟩, -⟩
      · exact ⟨m, es, (Except.error.inj (hload.symm.trans he)).symm⟩
      · exact absurd (hload.symm.trans he) (by simp)
    · rw [checkConfig_eq hfound, hr]
      exact ⟨_, rfl⟩

/-- A loader that reads an empty document, which is null, and accepts no schema. -/
def emptyDocumentRuntime : ConfigRuntime where
  text := asciiText
  safeLoad _ := .ok (.scalar .null)
  reprYaml _ := .ok "None"
  modelValidate _ := .error ⟨[⟨["metadata"], "Field required"⟩], List.cons_ne_nil _ _⟩

/-- The one file of a host. -/
def hostWithFile (bytes : List UInt8) : Host where
  isFile _ := .ok true
  readFile _ := .ok bytes

/-- The text of a document whose `apiVersion` is a number. -/
def numberedText : String := "apiVersion: 7\n"

/-- A loader that reads this document, and no other. -/
def numberedRuntime : ConfigRuntime where
  text := asciiText
  safeLoad text := if text = numberedText then .ok (.dict [(.str "apiVersion", .scalar (.int 7))])
    else .error (.yamlError "expected the document")
  reprYaml
    | .scalar (.int i) => .ok (toString i)
    | _ => .error "no number"
  modelValidate _ := .error ⟨[⟨["metadata"], "Field required"⟩], List.cons_ne_nil _ _⟩

/-- The document is reported on, with an error about its `apiVersion`. -/
theorem contentReported_numbered :
    ContentReported numberedRuntime (hostWithFile numberedText.toUTF8.data.toList)
        ⟨none, [], [], .ofString "/home"⟩ (.ofString "/home/bcs.yaml")
        numberedText.toUTF8.data.toList ∧
      ∃ r, validateDocument numberedRuntime (hostWithFile numberedText.toUTF8.data.toList)
          ⟨none, [], [], .ofString "/home"⟩ (.ofString "/home/bcs.yaml") = .ok r ∧
        r.errors = [⟨"schema", "$", "/home/bcs.yaml: unrecognized apiVersion 7; " ++
          "this bcs build supports: bcs/v1alpha1"⟩] := by
  constructor
  · refine (contentReported_iff ⟨fun v hv => absurd hv List.not_mem_nil, rfl⟩ rfl).mpr
      ⟨numberedText, by decide +kernel, fun e he => ?_, fun d hd => ?_⟩
    · simp [numberedRuntime] at he
    · obtain rfl : [(.str "apiVersion", .scalar (.int 7))] = d := by
        simpa [numberedRuntime] using hd
      exact ⟨⟨rfl, fun _ => ⟨"7", rfl⟩⟩, fun h => absurd h (by decide)⟩
  · decide +kernel

/-- A file that is no UTF-8 text is not reported on. -/
theorem contentReported_not_utf8 :
    ¬ ∀ (rt : ConfigRuntime) (host : Host) (loader : ConfigLoader) (source : PurePath)
      (bytes : List UInt8), loader.NoOverride → host.readFile source = .ok bytes →
        ContentReported rt host loader source bytes := by
  intro h
  have hloader : ConfigLoader.NoOverride ⟨none, [], [], .ofString "/home"⟩ :=
    ⟨fun v hv => absurd hv List.not_mem_nil, rfl⟩
  have hread : (hostWithFile [255]).readFile (.ofString "/home/bcs.yaml") = .ok [255] := rfl
  obtain ⟨r, hr, -⟩ := (h emptyDocumentRuntime _ _ _ _ hloader hread).report
  have htext : readText [255] = none := by decide +kernel
  rw [validateDocument_eq, load_of_read hloader hread, htext] at hr
  exact absurd hr (by simp)

end ClassroomSuite.Config
