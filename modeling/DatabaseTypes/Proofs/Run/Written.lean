import DatabaseTypes.Proofs.Run

/-!
# Runs that write their output

Whatever formatter a run has, and whatever that formatter does to the files, the run ends well exactly if it
gets as far as writing its output and the output is written.  Then the file at the destination holds the output;
log messages may follow in it if the log goes to the same file.

* `Files.Longer`          every regular file is still there, perhaps with more at its end
* `Session.longer_record`   a log message makes files longer at most
* `Run.Holds`             the file at a path holds a text
* `Run.Call.draft`        a run up to where its output is written
* `Run.Call.Writes`       a run writes its output
* `Run.Call.returns_iff_writes`   the runs that end well
-/

namespace DatabaseTypes

/-! ## files that get longer -/

namespace Files

variable {files files' files'' : Files}

/-- every regular file is still there, perhaps with more at its end -/
def Longer (files files' : Files) : Prop :=
  ∀ l bytes, files.bytesAt? l = some bytes → ∃ more, files'.bytesAt? l = some (bytes ++ more)

theorem Longer.refl (files : Files) : Longer files files :=
  fun _ bytes h => ⟨[], by rw [List.append_nil, h]⟩

theorem Longer.trans (h : Longer files files') (h' : Longer files' files'') : Longer files files'' := by
  intro l bytes hl
  obtain ⟨more, hm⟩ := h l bytes hl
  obtain ⟨yet, hy⟩ := h' l _ hm
  exact ⟨more ++ yet, by rw [← List.append_assoc, hy]⟩

theorem longer_extend (files : Files) (l : Location) (bytes : Bytes) :
    Longer files (files.extend l bytes) := by
  unfold extend
  split
  · rename_i old hold
    have hd : files.find? l ≠ some .directory := by rw [hold]; simp
    intro m b hm
    by_cases e : m = l
    · have hb : b = old := by
        rw [e, bytesAt?, hold] at hm
        cases hm
        rfl
      exact ⟨bytes, by rw [e, hb, bytesAt?_set hd]⟩
    · refine ⟨[], ?_⟩
      rw [(kept_set hd _).bytes m fun h => e (List.mem_singleton.mp h), List.append_nil, hm]
  · exact .refl files

end Files

namespace Session

theorem longer_emit (s : Session) (line : Text) (sink : Sink) :
    s.files.Longer (s.emit line sink).files := by
  unfold emit
  split
  · exact .refl _
  · exact .refl _
  · exact Files.longer_extend _ _ _
  all_goals exact .refl _

/-- a log message makes files longer at most -/
theorem longer_record (s : Session) (m : Message) : s.files.Longer (s.record m).files :=
  record_induction (P := fun t => s.files.Longer t.files) m (.refl _)
    fun t line sink ht _ => ht.trans (longer_emit t line sink)

end Session

theorem Text.encoded_eq_ok {t : Text} {bytes : Bytes} (h : t.encoded = .ok bytes) :
    bytes = t.toBytes := by
  unfold Text.encoded at h
  split at h
  · cases h
  · cases h
    rfl

namespace Run

/-! ## files that hold a text -/

/-- the file at a path holds a text; what follows it in a file that is open for log messages, and only there,
are such messages -/
structure Holds (path : Path) (text : Text) (s : Session) : Prop where
  encoded : text.encoded = .ok text.toBytes
  held : ∃ l more, s.files.locate s.host.here path = .ok l
    ∧ s.files.bytesAt? l = some (text.toBytes ++ more) ∧ (l ∉ s.log.files → more = [])

theorem Holds.record {path : Path} {text : Text} {s : Session} (h : Holds path text s) (m : Message) :
    Holds path text (s.record m) where
  encoded := h.encoded
  held := by
    obtain ⟨l, more, hl, hb, hmore⟩ := h.held
    have hk := s.keeps_record m
    obtain ⟨yet, hy⟩ := s.longer_record m l _ hb
    refine ⟨l, more ++ yet, ?_, by rw [hy, List.append_assoc], fun hlog => ?_⟩
    · rw [hk.host]
      exact hk.files.locate hl
    -- a file that is not open for messages is the same, so that nothing was added to it
    · rw [hk.log] at hlog
      rw [hk.files.bytes l hlog, hb, Option.some.injEq] at hy
      rw [hmore hlog, List.append_eq_nil_iff]
      exact ⟨rfl, List.self_eq_append_right.mp hy⟩

theorem Holds.released {path : Path} {text : Text} {s : Session} (h : Holds path text s)
    (id : Option Text) : Holds path text { s with runId := id } := ⟨h.encoded, h.held⟩

theorem holds_of_write {text : Text} {path p : Path} {s s' : Session}
    (h : (write text path).run s = (.ok p, s')) : Holds path text s' ∧ p = path := by
  unfold write at h
  obtain ⟨host, _, hhost, h⟩ := Action.run_bind_eq_ok_iff.mp h
  cases hhost
  dsimp only at h
  obtain ⟨_, s₁, hw, h⟩ := Action.run_bind_eq_ok_iff.mp h
  obtain ⟨_, s₂, hlog, h⟩ := Action.run_bind_eq_ok_iff.mp h
  cases h
  rw [Action.run_log] at hlog
  cases hlog
  refine ⟨Holds.record ?_ _, rfl⟩
  have hwriting := Action.run_of_reporting hw
  obtain ⟨_, s₂, hm, hwriting⟩ := Action.run_bind_eq_ok_iff.mp hwriting
  obtain ⟨_, s₃, hc, hwriting⟩ := Action.run_bind_eq_ok_iff.mp hwriting
  obtain ⟨_, s₄, hb, hdone⟩ := Action.run_bind_eq_ok_iff.mp hwriting
  obtain ⟨hb, rfl⟩ := Action.run_lift_eq_ok_iff.mp hb
  obtain ⟨-, rfl⟩ := Prod.mk.inj hdone
  cases he : text.encoded with
  | error f =>
    rw [he] at hb
    cases hb
  | ok bytes =>
    cases Text.encoded_eq_ok he
    rw [he] at hc
    obtain ⟨files, hwrite, rfl⟩ := Action.run_changeFiles_eq_ok hc
    have hk : s.Keeps s₂ := by
      have := Action.leads_iff.mp (Action.quiet_makeDirectories path.parent s)
      rw [hm] at this
      exact (this.1 _ rfl).1
    obtain ⟨l, hl, hd, rfl⟩ := Files.exists_of_write hwrite
    have hkept := Files.kept_set hd text.toBytes
    refine ⟨he, l, [], ?_, ?_, fun _ => rfl⟩
    · rw [← hk.host] at hl
      exact hkept.locate hl
    · rw [List.append_nil]
      exact Files.bytesAt?_set hd _

/-! ## what a run does before it writes -/

namespace Call

variable {c : Call} {s s' : Session}

/-- the schema and the output of a run -/
def draft (c : Call) : Action (Schema × Text) := do
  let schema ← readSchema c.datamodel
  let text ← Formatter.formatted c.settings.formatting (← assemble c.settings schema)
  pure (schema, text)

/-- what a run does with its output -/
def finish (path : Path) (schema : Schema) (text : Text) : Action Summary := do
  let _ ← write text path
  let summary : Summary :=
    { destination := path, tables := schema.tables.length, enums := schema.orderedEnums.length
      composites := schema.orderedComposites.length }
  Action.log .info "generation_complete"
    [("destination", .text path.text), ("tables", .int summary.tables),
     ("enums", .int summary.enums), ("composite_types", .int summary.composites)]
  pure summary

theorem finish_eq_ok {path : Path} {schema : Schema} {text : Text} {summary : Summary}
    (h : (finish path schema text).run s = (.ok summary, s')) :
    summary.destination = path ∧ ∃ s₁ m, (write text path).run s = (.ok path, s₁) ∧ s' = s₁.record m := by
  obtain ⟨p, s₁, hw, h⟩ := Action.run_bind_eq_ok_iff.mp h
  obtain ⟨_, s₂, hlog, hdone⟩ := Action.run_bind_eq_ok_iff.mp h
  rw [Action.run_log] at hlog
  cases hlog
  cases hdone
  rw [(holds_of_write hw).2] at hw
  exact ⟨rfl, s₁, _, hw, rfl⟩

theorem generateTo_eq (c : Call) (path : Path) : generateTo path c.datamodel c.settings
    = c.draft >>= fun d => finish path d.1 d.2 := by
  simp only [generateTo, draft, finish, bind_assoc, pure_bind]

/-- a run gets as far as writing its output, and the output is written -/
def Writes (c : Call) (s : Session) (path : Path) (text : Text) (s' : Session) : Prop :=
  ∃ id schema s₁ s₂ s₃, (destination c.output c.base).run s = (.ok path, s₁)
    ∧ Action.setRunId.run s₁ = (.ok id, s₂) ∧ c.draft.run s₂ = (.ok (schema, text), s₃)
    ∧ (write text path).run s₃ = (.ok path, s')

/-- a run that ends well has written its output, which is still there at the end -/
theorem exists_writes {summary : Summary} (h : c.action.run s = (.ok summary, s')) :
    ∃ text s₁, c.Writes s summary.destination text s₁ ∧ Holds summary.destination text s' := by
  obtain ⟨path, s₁, hp, h⟩ := Action.run_bind_eq_ok_iff.mp h
  obtain ⟨id, s₂, hid, h⟩ := Action.run_bind_eq_ok_iff.mp h
  obtain ⟨s₃, hto, rfl⟩ := Action.run_thenAlways_eq_ok_iff.mp h
  rw [generateTo_eq] at hto
  obtain ⟨⟨schema, text⟩, s₄, hd, hf⟩ := Action.run_bind_eq_ok_iff.mp hto
  obtain ⟨rfl, s₅, m, hw, rfl⟩ := finish_eq_ok hf
  exact ⟨text, s₅, ⟨id, schema, s₁, s₂, s₄, hp, hid, hd, hw⟩,
    ((holds_of_write hw).1.record m).released none⟩

/-- **The runs that end well** are those that write their output. -/
theorem returns_iff_writes (c : Call) (s : Session) :
    (∃ summary s', c.action.run s = (.ok summary, s')) ↔ ∃ path text s', c.Writes s path text s' := by
  constructor
  · rintro ⟨summary, s', h⟩
    obtain ⟨text, s₁, hw, _⟩ := exists_writes h
    exact ⟨_, text, s₁, hw⟩
  · rintro ⟨path, text, s', id, schema, s₁, s₂, s₃, hp, hid, hd, hw⟩
    -- what follows the writing is a log message
    have hfinish : ∃ summary s₄, (finish path schema text).run s₃ = (.ok summary, s₄) :=
      ⟨_, _, Action.run_bind_eq_ok_iff.mpr ⟨path, s', hw, rfl⟩⟩
    obtain ⟨summary, s₄, hf⟩ := hfinish
    have hto : (generateTo path c.datamodel c.settings).run s₂ = (.ok summary, s₄) := by
      rw [generateTo_eq]
      exact Action.run_bind_eq_ok_iff.mpr ⟨(schema, text), s₃, hd, hf⟩
    have hrest : ((generateTo path c.datamodel c.settings).thenAlways
        fun s => { s with runId := none }).run s₂ = (.ok summary, { s₄ with runId := none }) :=
      Action.run_thenAlways_eq_ok_iff.mpr ⟨s₄, hto, rfl⟩
    refine ⟨summary, { s₄ with runId := none }, Action.run_bind_eq_ok_iff.mpr ⟨path, s₁, hp, ?_⟩⟩
    exact Action.run_bind_eq_ok_iff.mpr ⟨id, s₂, hid, hrest⟩

end Call
end Run
end DatabaseTypes
