import DatabaseTypes.Proofs.Drawn.Page
import DatabaseTypes.Proofs.Sections
import DatabaseTypes.Proofs.Session

/-!
# Runs on a machine

A run writes its output or nothing: if it ends with a fault, all regular files are what they were, and otherwise
one file holds the output.  Files that are open for log messages are left out of account, for they get
the messages of every run.

* `Run.leads_write`       what writing the output leads to
* `Run.leads_generateTo`  what a run leads to once it is settled where the output goes
* `Run.Call`, `Run.Turn`  a run that is asked for, and a run that was made
* `Run.turns`             runs that are made one after the other
* `Run.allOrNothing_turns`   what holds of each of them
-/

namespace DatabaseTypes

namespace Run

/-- what writing the output leads to: the file at the location of the path is new, and nothing else -/
structure Wrote (path : Path) (text : Text) (l : Location) (s s' : Session) : Prop where
  host : s'.host = s.host
  log : s'.log = s.log
  locate : s'.files.locate s.host.here path = .ok l
  bytes : ∀ m, m ∉ s.log.files →
    s'.files.bytesAt? m = if m = l then some text.toBytes else s.files.bytesAt? m

theorem Wrote.of_keeps {path : Path} {text : Text} {l : Location} {s s₁ s₂ s' : Session}
    (h : s.Keeps s₁) (hw : Wrote path text l s₁ s₂) (h' : s₂.Keeps s') : Wrote path text l s s' where
  host := h'.host.trans (hw.host.trans h.host)
  log := h'.log.trans (hw.log.trans h.log)
  locate := h'.files.locate (h.host ▸ hw.locate)
  bytes m hm := by
    have hm₁ : m ∉ s₁.log.files := h.log ▸ hm
    have hm₂ : m ∉ s₂.log.files := hw.log ▸ hm₁
    rw [h'.files.bytes m hm₂, hw.bytes m hm₁, h.files.bytes m hm]

theorem wrote_set {path : Path} {text : Text} {l : Location} {s : Session}
    (hl : s.files.locate s.host.here path = .ok l) (hd : s.files.find? l ≠ some .directory) :
    Wrote path text l s { s with files := s.files.set l (.file text.toBytes) } where
  host := rfl
  log := rfl
  locate := (Files.kept_set hd _).locate hl
  bytes m _ := by
    split
    · rename_i e
      rw [e]
      exact Files.bytesAt?_set hd _
    · rename_i e
      exact (Files.kept_set hd _).bytes m fun h => e (List.mem_singleton.mp h)

theorem leads_write {text : Text} (h : text.encoded = .ok text.toBytes) (path : Path) (s : Session) :
    (write text path).Leads s (fun _ s' => ∃ l, Wrote path text l s s') fun _ s' => s.Keeps s' := by
  unfold write
  rw [Action.leads_bind, Action.leads_host]
  dsimp only
  rw [h, Action.leads_bind]
  refine Action.Leads.mono (Action.Leads.reporting ?_ _)
    (fun _ s' (hw : ∃ l, Wrote path text l s s') => ?_) fun _ _ h => h
  · rw [Action.leads_bind]
    refine (Action.quiet_makeDirectories path.parent s).mono (fun _ s₁ h₁ => ?_) fun _ _ h => h
    rw [Action.leads_bind]
    -- a directory made before the write failed stays, but it is no regular file
    refine Action.leads_changeFiles (fun files hw => ?_) fun _ _ => h₁.1
    obtain ⟨l, hl, hd, rfl⟩ := Files.exists_of_write hw
    rw [← h₁.1.host] at hl
    exact ⟨l, (wrote_set hl hd).of_keeps h₁.1 (.refl _)⟩
  · obtain ⟨l, hw⟩ := hw
    rw [Action.leads_bind, Action.leads_log]
    exact ⟨l, hw.of_keeps (.refl s) (s'.keeps_record _)⟩

/-! ## one run -/

theorem quiet_readSchema (datamodel : Json) :
    Action.Quiet (readSchema datamodel) fun s => Schema.ofJson datamodel = .ok s := by
  refine (Action.quiet_forM fun n => Action.quiet_log).bind fun _ _ => ?_
  refine Action.quiet_lift.bind fun s hs => ?_
  exact Action.quiet_log.bind fun _ _ => Action.quiet_pure hs

theorem quiet_assemble (settings : Settings) (s : Schema) :
    Action.Quiet (assemble settings s) fun text =>
      Emission.text { documentation := settings.generator.documentation } [s] = .ok text := by
  refine Action.quiet_lift.bind fun text ht => ?_
  exact Action.quiet_log.bind fun _ _ => Action.quiet_pure ht

/-- an output and the outline that it shows, with as many entries as the summary of a run tells -/
structure Shows (datamodel : Json) (e : Emission) (summary : Summary) (text : Text) (o : Outline) :
    Prop where
  generated : generateTypes datamodel e.documentation = .ok text
  outline : ∃ s, Schema.ofJson datamodel = .ok s ∧ s.outline = .ok o
  page : text = (Emission.frame [Emission.braced Emission.schemaIndent o.key (.stacked
    [(e.tableSection o).layout, Emission.placeholder "Views" "/* No support for views */",
     Emission.placeholder "Functions" "/* No support for functions */", (e.enumSection o).layout,
     (e.compositeSection o).layout])]).text
  tables : (e.tableSection o).Counts summary.tables
  enums : (e.enumSection o).Counts summary.enums
  composites : (e.compositeSection o).Counts summary.composites

theorem shows_summary {datamodel : Json} {documentation : Bool} {s : Schema} {text : Text}
    (hs : Schema.ofJson datamodel = .ok s) (ht : Emission.text { documentation } [s] = .ok text)
    (path : Path) :
    ∃ o, Shows datamodel { documentation } ⟨path, s.tables.length, s.orderedEnums.length,
      s.orderedComposites.length⟩ text o := by
  rw [Emission.text_singleton] at ht
  obtain ⟨o, ho, e⟩ := Outcome.map_eq_ok_iff.mp ht
  obtain ⟨_, _, htables, henums, hcomposites⟩ := Schema.outline_eq_ok ho
  have hk := (Schema.keyed_ofJson hs).outline ho
  have hlength : s.tables.length = o.tables.length := by
    rw [← (Outcome.mapM_eq_ok_iff.mp htables).length_eq]
    exact (Order.sorted_perm _ s.tables).length_eq.symm
  refine ⟨o, ⟨generateTypes_eq_ok_iff.mpr ⟨s, o, hs, ho, e⟩, ⟨s, hs, ho⟩, ?_, ?_, ?_, ?_⟩⟩
  · rw [← Emission.page_eq, e]
  · rw [hlength]
    exact Emission.counts_tables _ hk
  · rw [← henums]
    exact Emission.counts_enums _ hk
  · rw [← hcomposites]
    exact Emission.counts_composites _ hk

theorem leads_generateTo {datamodel : Json} {settings : Settings}
    (hd : ∀ c ∈ datamodel.chars, isHalf c = false) (hf : settings.formatting.enabled = false)
    (path : Path) (s : Session) :
    (generateTo path datamodel settings).Leads s
      (fun summary s' => summary.destination = path ∧ ∃ text o l, Wrote path text l s s'
        ∧ Shows datamodel { documentation := settings.generator.documentation } summary text o)
      fun _ s' => s.Keeps s' := by
  have hformatted : ∀ t, Formatter.formatted settings.formatting t = pure t := by
    intro t
    unfold Formatter.formatted
    rw [hf]
    rfl
  unfold generateTo
  rw [Action.leads_bind]
  refine (quiet_readSchema datamodel s).mono (fun schema s₁ h₁ => ?_) fun _ _ h => h
  rw [Action.leads_bind]
  refine (quiet_assemble settings schema s₁).mono (fun text s₂ h₂ => ?_) fun _ _ h => h₁.1.trans h
  have h := h₁.1.trans h₂.1
  obtain ⟨o, hshows⟩ := shows_summary h₁.2 h₂.2 path
  rw [hformatted, Action.leads_bind, Action.leads_pure, Action.leads_bind]
  refine (leads_write (encoded_generateTypes hshows.generated hd) path s₂).mono
    (fun _ s₃ hw => ?_) fun _ _ h' => h.trans h'
  obtain ⟨l, hw⟩ := hw
  dsimp only
  rw [Action.leads_bind, Action.leads_log]
  exact ⟨rfl, text, o, l, hw.of_keeps h (s₃.keeps_record _), hshows⟩

/-! ## runs one after the other -/

structure Call where
  datamodel : Json
  settings : Settings
  base : Option Path := none

namespace Call

def output (c : Call) : Option Text := c.settings.generator.output

def emission (c : Call) : Emission := { documentation := c.settings.generator.documentation }

def action (c : Call) : Action Summary := generate c.datamodel c.settings c.base

/-- the model has no halves of surrogate pairs, and its output is not formatted -/
structure IsPlain (c : Call) : Prop where
  whole : ∀ x ∈ c.datamodel.chars, isHalf x = false
  unformatted : c.settings.formatting.enabled = false

end Call

/-- a run that was made: the session before it, how it ended, and the session after it -/
structure Turn where
  call : Call
  before : Session
  result : Except Fault Summary
  after : Session

/-- runs that are made one after the other -/
def turns (s : Session) : List Call → List Turn
  | [] => []
  | c :: cs => ⟨c, s, (c.action.run s).1, (c.action.run s).2⟩ :: turns (c.action.run s).2 cs

/-- what a run does, whichever way it ends -/
structure Turn.AllOrNothing (t : Turn) : Prop where
  /-- the machine and the log are the same -/
  kept : t.after.host = t.before.host ∧ t.after.log = t.before.log
  /-- the identifier of the run is gone -/
  released : t.after.runId = none
  /-- a run does not begin as long as it is not settled where the output goes -/
  missing : t.call.output = none ∨ t.call.output = some [] →
    t.result = .error (.problem (.settingMissing outputSetting))
  /-- a run that ends with a fault leaves every file as it was -/
  nothing : ∀ f, t.result = .error f → ∀ l, l ∉ t.before.log.files →
    t.after.files.bytesAt? l = t.before.files.bytesAt? l
  /-- any other run writes the output to its destination and changes no other file, and the summary tells how
  many entries there are in the output -/
  all : ∀ summary, t.result = .ok summary → ∃ text o l,
    resolved t.before.host t.call.output t.call.base = .ok summary.destination
      ∧ Wrote summary.destination text l t.before t.after
      ∧ Shows t.call.datamodel t.call.emission summary text o

theorem leads_destination {output : Option Text} {base : Option Path} {s : Session}
    {done : Path → Session → Prop} {failed : Fault → Session → Prop}
    (hd : ∀ path, resolved s.host output base = .ok path → done path s)
    (hf : ∀ f, resolved s.host output base = .error f → failed f s) :
    (destination output base).Leads s done failed := by
  unfold destination
  rw [Action.leads_bind, Action.leads_host]
  exact Action.leads_lift hd hf

theorem leads_setRunId (s : Session) :
    (Action.setRunId none).Leads s (fun _ s' => s.Keeps s') fun _ _ => False := by
  unfold Action.setRunId
  rw [Action.leads_bind, Action.leads_get]
  exact ⟨rfl, rfl, .refl _ _⟩

theorem Call.leads_action {c : Call} (hc : c.IsPlain) {s : Session} (hs : s.runId = none) :
    c.action.Leads s
      (fun summary s' => s'.runId = none ∧ ∃ text o l,
        resolved s.host c.output c.base = .ok summary.destination
          ∧ Wrote summary.destination text l s s' ∧ Shows c.datamodel c.emission summary text o)
      fun _ s' => s'.runId = none ∧ s.Keeps s' := by
  unfold Call.action generate
  rw [Action.leads_bind]
  refine leads_destination (fun path hp => ?_) fun _ _ => ⟨hs, .refl s⟩
  rw [Action.leads_bind]
  refine (leads_setRunId s).mono (fun _ s₁ h₁ => Action.Leads.thenAlways ?_) fun _ _ h => h.elim
  refine (leads_generateTo hc.whole hc.unformatted path s₁).mono ?_ ?_
  · rintro summary s₂ ⟨rfl, text, o, l, hw, hshows⟩
    exact ⟨rfl, text, o, l, hp, hw.of_keeps h₁ ⟨rfl, rfl, .refl _ _⟩, hshows⟩
  · intro f s₂ h₂
    exact ⟨rfl, h₁.trans ⟨h₂.host, h₂.log, h₂.files⟩⟩

/-- without a place for the output a run ends before the model is looked at -/
theorem Call.leads_missing {c : Call} (h : c.output = none ∨ c.output = some []) (s : Session) :
    c.action.Leads s (fun _ _ => False) fun f _ => f = .problem (.settingMissing outputSetting) := by
  have hresolved : resolved s.host c.output c.base
      = .error (.problem (.settingMissing outputSetting)) := by
    rcases h with h | h <;> rw [h] <;> rfl
  unfold Call.action generate
  rw [Action.leads_bind]
  refine leads_destination (fun path hp => ?_) fun f hf => ?_
  · cases hresolved.symm.trans hp
  · cases hresolved.symm.trans hf
    rfl

theorem allOrNothing_turn {c : Call} (hc : c.IsPlain) {s : Session} (hs : s.runId = none) :
    Turn.AllOrNothing ⟨c, s, (c.action.run s).1, (c.action.run s).2⟩ := by
  obtain ⟨hdone, hfailed⟩ := Action.leads_iff.mp (Call.leads_action hc hs)
  cases hr : (c.action.run s).1 with
  | ok summary =>
    obtain ⟨hid, text, o, l, hp, hw, hshows⟩ := hdone summary hr
    refine ⟨⟨hw.host, hw.log⟩, hid, fun hm => ?_, fun f hf => ?_, fun summary' h => ?_⟩
    · exact ((Action.leads_iff.mp (Call.leads_missing hm s)).1 summary hr).elim
    · cases hf
    · cases h
      exact ⟨text, o, l, hp, hw, hshows⟩
  | error f =>
    obtain ⟨hid, hk⟩ := hfailed f hr
    refine ⟨⟨hk.host, hk.log⟩, hid, fun hm => ?_, fun _ _ => hk.files.bytes, fun summary h => ?_⟩
    · exact congrArg Except.error ((Action.leads_iff.mp (Call.leads_missing hm s)).2 f hr)
    · cases h

/-- a run without a place for its output, a run that can end well, and a run with something that is no model -/
def Call.samples : List Call :=
  [{ datamodel := .null, settings := {} },
   { datamodel := .object [("models", .list [.object [("name", "Caf\u00e9 \u2028")]])]
     settings := { generator := { output := some "types/database.ts" } } },
   { datamodel := .object [("models", .list [.text "User"])]
     settings := { generator := { output := some "types/database.ts" } } }]

end Run
end DatabaseTypes
