import DatabaseTypes.Proofs.Run.Begun
import DatabaseTypes.Proofs.Run.Written
import DatabaseTypes.Proofs.Still

/-!
# Runs without formatting

A run without formatting writes the types that are generated, or it leaves every regular file as it is.  There is one
other way in which it can end: types with halves of surrogate pairs have no bytes, and leave their file empty.

* `Run.leads_write_halves`       what writing a text with halves leads to
* `Run.Call.leads_unformatted`   what a run leads to
* `Run.Call.exists_run`          when a run is made
-/

namespace DatabaseTypes

/-! ## what a run leads to -/

/-- what writing a text with halves of surrogate pairs leads to: nothing, or a file without anything in it -/
theorem Run.leads_write_halves {text : Text} {e : HalfFault} (h : text.encoded = .error e) (path : Path) (s : Session) :
    (write text path).Leads s (fun _ _ => False) fun _ s' => s.Keeps s' ∨ ∃ l, Wrote path [] l s s' := by
  unfold write
  rw [Action.leads_bind, Action.leads_host]
  dsimp only
  rw [h, Action.leads_bind]
  have hreported {a : Action Unit} (ha : a.Leads s (fun _ _ => False) fun _ s' => s.Keeps s' ∨ ∃ l, Wrote path [] l s s')
      (problem : SystemFault → Problem) := Action.Leads.reporting ha problem
  refine Action.Leads.mono (hreported ?_ _) (fun _ _ h => h.elim) fun _ _ h => h
  rw [Action.leads_bind]
  refine (Action.quiet_makeDirectories path.parent s).mono (fun _ s₁ h₁ => ?_) fun _ _ h => .inl h
  rw [Action.leads_bind]
  refine Action.leads_changeFiles (fun files hw => ?_) fun _ _ => .inl h₁.1
  obtain ⟨l, hl, hd, rfl⟩ := Files.exists_of_write hw
  rw [← h₁.1.host] at hl
  exact .inr ⟨l, (wrote_set hl hd).of_keeps h₁.1 (.refl _)⟩

namespace Run

/-- the types that were generated are in the file at the path -/
def Stored (c : Call) (path : Path) (text : Text) (s s' : Session) : Prop :=
  generateTypes c.datamodel c.emission.documentation = .ok text ∧ ∃ l, Wrote path text l s s'

/-- the types have halves of surrogate pairs, and nothing is in the file at the path -/
def Emptied (c : Call) (path : Path) (s s' : Session) : Prop :=
  ∃ text e l, generateTypes c.datamodel c.emission.documentation = .ok text ∧ text.encoded = .error e
    ∧ Wrote path [] l s s'

variable {c : Call} (hf : c.settings.formatting.enabled = false)
include hf

theorem leads_generateTo_unformatted (path : Path) (s : Session) :
    (generateTo path c.datamodel c.settings).Leads s
      (fun r s' => r.destination = path ∧ ∃ text, Stored c path text s s')
      fun _ s' => s.Keeps s' ∨ Emptied c path s s' := by
  unfold generateTo
  rw [Action.leads_bind]
  refine (quiet_readSchema c.datamodel s).mono (fun schema s₁ h₁ => ?_) fun _ _ h => .inl h
  rw [Action.leads_bind]
  refine (quiet_assemble c.settings schema s₁).mono (fun text s₂ h₂ => ?_) fun _ _ h => .inl (h₁.1.trans h)
  have h := h₁.1.trans h₂.1
  obtain ⟨o, hshows⟩ := shows_summary h₁.2 h₂.2 path
  have hgenerated : generateTypes c.datamodel c.emission.documentation = .ok text := hshows.generated
  rw [Formatter.formatted_disabled hf, Action.leads_bind, Action.leads_pure, Action.leads_bind]
  cases hencoded : text.encoded with
  | error e =>
    refine (leads_write_halves hencoded path s₂).mono (fun _ _ h => h.elim) fun _ s₃ h' => ?_
    rcases h' with h' | ⟨l, hw⟩
    · exact .inl (h.trans h')
    · exact .inr ⟨text, e, l, hgenerated, hencoded, hw.of_keeps h (.refl _)⟩
  | ok bytes =>
    have hbytes : text.encoded = .ok text.toBytes := by rw [hencoded, Text.encoded_eq_ok hencoded]
    refine (leads_write hbytes path s₂).mono (fun _ s₃ hw => ?_) fun _ _ h' => .inl (h.trans h')
    obtain ⟨l, hw⟩ := hw
    dsimp only
    rw [Action.leads_bind, Action.leads_log]
    exact ⟨rfl, text, hgenerated, l, hw.of_keeps h (s₃.keeps_record _)⟩

/-- what a run without formatting leads to -/
theorem Call.leads_unformatted (s : Session) : c.action.Leads s
    (fun r s' => c.place s.host = .ok r.destination ∧ ∃ text, Stored c r.destination text s s')
    fun _ s' => s.Keeps s' ∨ ∃ path, c.place s.host = .ok path ∧ Emptied c path s s' := by
  unfold Call.action generate
  rw [Action.leads_bind]
  refine leads_destination (fun path hp => ?_) fun _ _ => .inl (.refl s)
  rw [Action.leads_bind]
  refine (leads_setRunId s).mono (fun _ s₁ h₁ => Action.Leads.thenAlways ?_) fun _ _ h => h.elim
  refine (leads_generateTo_unformatted hf path s₁).mono ?_ ?_
  · rintro r s₂ ⟨rfl, text, hgenerated, l, hw⟩
    exact ⟨hp, text, hgenerated, l, hw.of_keeps h₁ ⟨rfl, rfl, .refl _ _⟩⟩
  · rintro f s₂ (h₂ | ⟨text, e, l, hgenerated, hencoded, hw⟩)
    · exact .inl (h₁.trans ⟨h₂.host, h₂.log, h₂.files⟩)
    · exact .inr ⟨path, hp, text, e, l, hgenerated, hencoded, hw.of_keeps h₁ ⟨rfl, rfl, .refl _ _⟩⟩

end Run

/-! ## runs that can be made -/

namespace Run

/-- the file at a path can be written: the directories above it can be made, and there is nothing in its place -/
def IsWritable (path : Path) (host : Host) (files : Files) : Prop :=
  Files.pathFault? path = none ∧ ∃ made l, files.makeDirectories host.here path.parent = (made, .ok ())
    ∧ made.locate host.here path = .ok l ∧ made.find? l = none

theorem exists_run_write {text : Text} (h : text.encoded = .ok text.toBytes) {path : Path} {s : Session}
    (hw : IsWritable path s.host s.files) : ∃ s', (write text path).run s = (.ok path, s') := by
  obtain ⟨hnamed, made, l, hmade, hl, hnone⟩ := hw
  have hdirectories : (Action.makeDirectories path.parent).run s = (.ok (), { s with files := made }) := by
    show ((s.files.makeDirectories s.host.here path.parent).2,
      { s with files := (s.files.makeDirectories s.host.here path.parent).1 }) = _
    rw [hmade]
  have hfile : made.write s.host.here path text.toBytes = .ok (made.set l (.file text.toBytes)) := by
    unfold Files.write Files.update
    rw [hnamed, hl]
    dsimp only
    rw [hnone]
  have hwriting : (do
      Action.makeDirectories path.parent
      Action.changeFiles fun files => files.write s.host.here path text.toBytes
      let _ ← Action.lift ((Except.ok text.toBytes : Except HalfFault Bytes).mapError .unencodable)
      pure () : Action Unit).Leads s (fun _ _ => True) fun _ _ => False := by
    rw [Action.leads_bind]
    unfold Action.Leads
    rw [hdirectories]
    dsimp only
    rw [Action.run_bind, Action.run_changeFiles]
    dsimp only
    rw [hfile]
    trivial
  have hleads : (write text path).Leads s (fun p _ => p = path) fun _ _ => False := by
    unfold write
    rw [Action.leads_bind, Action.leads_host]
    dsimp only
    rw [h, Action.leads_bind]
    exact (hwriting.reporting _).mono (fun _ _ _ => rfl) fun _ _ h => h
  rcases hr : (write text path).run s with ⟨f | p, s'⟩
  · exact absurd hr fun e => (Action.leads_iff.mp hleads).2 f (by rw [e])
  · have hpath := (Action.leads_iff.mp hleads).1 p (by rw [hr])
    exact ⟨s', by rw [hpath]⟩

theorem passes_readSchema {datamodel : Json} {schema : Schema} (h : Schema.ofJson datamodel = .ok schema) :
    Action.Passes (readSchema datamodel) schema :=
  (Action.Passes.forM fun _ => Action.passes_log).bind <| (Action.passes_lift h).bind <|
    Action.passes_log.bind (Action.passes_pure _)

theorem passes_assemble {settings : Settings} {schema : Schema} {text : Text}
    (h : Emission.text { documentation := settings.generator.documentation } [schema] = .ok text) :
    Action.Passes (assemble settings schema) text :=
  (Action.passes_lift h).bind <| Action.passes_log.bind (Action.passes_pure _)

/-- a run without formatting is made if its types can be generated and have bytes, and their file can be written -/
theorem Call.exists_run {c : Call} (hf : c.settings.formatting.enabled = false) {s : Session} (hs : s.log.files = [])
    {text : Text} (ht : generateTypes c.datamodel c.emission.documentation = .ok text)
    (hencoded : text.encoded = .ok text.toBytes) {path : Path} (hplace : c.place s.host = .ok path)
    (hw : IsWritable path s.host s.files) : ∃ r s', c.action.run s = (.ok r, s') := by
  obtain ⟨schema, o, hschema, ho, hpage⟩ := generateTypes_eq_ok_iff.mp ht
  have htext : Emission.text { documentation := c.settings.generator.documentation } [schema] = .ok text := by
    rw [Emission.text_singleton, ho, ← hpage]
    rfl
  have hformatted : Action.Passes (Formatter.formatted c.settings.formatting text) text := by
    rw [Formatter.formatted_disabled hf]
    exact Action.passes_pure text
  have hdraft : Action.Passes c.draft (schema, text) :=
    (passes_readSchema hschema).bind <| (passes_assemble htext).bind <| hformatted.bind (Action.passes_pure _)
  have hdestination : (destination c.output c.base).run s = (c.place s.host, s) := Action.run_lift _ s
  have hs₁ : s.Untouched (Action.setRunId.run s).2 := ⟨rfl, rfl, hs⟩
  obtain ⟨s₂, hrun, hs₂⟩ := hdraft (Action.setRunId.run s).2 hs
  have hs' := hs₁.trans hs₂
  rw [← hs'.host, ← hs'.files] at hw
  obtain ⟨s₃, hwrite⟩ := exists_run_write hencoded hw
  refine (c.returns_iff_writes s).mpr ⟨path, text, s₃, s.host.runName s.runs, schema, s, _, s₂, ?_, rfl, hrun, hwrite⟩
  rw [hdestination, hplace]

end Run

end DatabaseTypes
