import DatabaseTypes.Proofs.Files.Same
import DatabaseTypes.Proofs.Session

/-!
# Steps that do not see the log

What a step does hangs on the host and on the entries of the machine, but not on what is in the files that are open
for log messages, as long as other programs overlook those.

* `Session.Alike`          sessions that are the same but for some files and for the log
* `Action.Blind`           a step that ends alike from sessions that are alike
* `Action.run_openLog_alike`   opening the outputs of the log
* `Host.Transforms`        a host whose other programs are functions of their input
* `Host.Overlooks`         a host whose other programs see nothing of some files
* `Run.blind_generate`     a run
-/

namespace DatabaseTypes

open Outcome

/-! ## sessions -/

/-- both logs go to files that are left out of account -/
def Log.Aside (ls : List Location) (log log' : Log) : Prop := log.files ⊆ ls ∧ log'.files ⊆ ls

namespace Session

variable {h : Host} {ls : List Location} {s s' : Session}

theorem sameBut_emit (s : Session) (line : Text) {sink : Sink} (hsink : ∀ l, sink = .file l → l ∈ ls) :
    Files.SameBut ls s.files (s.emit line sink).files := by
  unfold emit
  split
  · exact .refl _ _
  · exact .refl _ _
  · exact .extend _ (hsink _ rfl) _
  all_goals exact .refl _ _

/-- a log message changes files alone that are open for messages -/
theorem sameBut_record (s : Session) (m : Message) :
    Files.SameBut s.log.files s.files (s.record m).files :=
  record_induction (P := fun t => Files.SameBut s.log.files s.files t.files) m (.refl _ _)
    fun t line _ ht hsink => ht.trans (sameBut_emit t line hsink)

/-- sessions on one host with the same entries, but for the bytes of files at some locations, and with logs that are
related -/
structure Alike (h : Host) (ls : List Location) (P : Log → Log → Prop) (s s' : Session) : Prop where
  host : s.host = h
  host' : s'.host = h
  log : P s.log s'.log
  files : Files.SameBut ls s.files s'.files

namespace Alike

variable {P : Log → Log → Prop}

theorem setFiles (hs : Alike h ls P s s') {files files' : Files} (hf : Files.SameBut ls files files') :
    Alike h ls P { s with files := files } { s' with files := files' } :=
  ⟨hs.host, hs.host', hs.log, hf⟩

theorem setRun (hs : Alike h ls P s s') (id id' : Option Text) (n n' : Nat) :
    Alike h ls P { s with runId := id, runs := n } { s' with runId := id', runs := n' } :=
  ⟨hs.host, hs.host', hs.log, hs.files⟩

theorem setLog (hs : Alike h ls P s s') (log : Log) :
    Alike h ls Eq { s with log := log } { s' with log := log } :=
  ⟨hs.host, hs.host', rfl, hs.files⟩

theorem mono {ms : List Location} (hs : Alike h ls (Log.Aside ls) s s') (hsub : ls ⊆ ms) :
    Alike h ms (Log.Aside ms) s s' :=
  ⟨hs.host, hs.host', ⟨List.Subset.trans hs.log.1 hsub, List.Subset.trans hs.log.2 hsub⟩, hs.files.mono hsub⟩

/-- logs that are the same may be left out of account -/
theorem aside (hs : Alike h ls Eq s s') : Alike h (ls ++ s.log.files) (Log.Aside (ls ++ s.log.files)) s s' where
  host := hs.host
  host' := hs.host'
  log := ⟨List.subset_append_right _ _, hs.log ▸ List.subset_append_right _ _⟩
  files := hs.files.mono (List.subset_append_left _ _)

/-- a message in one of the sessions goes to files that are left out of account -/
theorem record_left (hP : ∀ log log', P log log' → Log.Aside ls log log') (hs : Alike h ls P s s') (m : Message) :
    Alike h ls P (s.record m) s' where
  host := (s.keeps_record m).host.trans hs.host
  host' := hs.host'
  log := by
    rw [(s.keeps_record m).log]
    exact hs.log
  files := ((s.sameBut_record m).mono (hP _ _ hs.log).1).symm.trans hs.files

theorem record (hP : ∀ log log', P log log' → Log.Aside ls log log') (hs : Alike h ls P s s')
    (m m' : Message) : Alike h ls P (s.record m) (s'.record m') where
  host := (s.keeps_record m).host.trans hs.host
  host' := (s'.keeps_record m').host.trans hs.host'
  log := by
    rw [(s.keeps_record m).log, (s'.keeps_record m').log]
    exact hs.log
  files := ((s.sameBut_record m).mono (hP _ _ hs.log).1).symm.trans
    (hs.files.trans ((s'.sameBut_record m').mono (hP _ _ hs.log).2))

end Alike
end Session

/-! ## steps -/

namespace Action

variable {α β : Type} {h : Host} {ls : List Location} {P : Log → Log → Prop}

/-- a step that ends alike from sessions that are alike -/
def Blind (h : Host) (ls : List Location) (P : Log → Log → Prop) (a : Action α) : Prop :=
  ∀ s s', Session.Alike h ls P s s' →
    (a.run s).1 = (a.run s').1 ∧ Session.Alike h ls P (a.run s).2 (a.run s').2

theorem blind_pure (x : α) : Blind h ls P (pure x) := fun _ _ hs => ⟨rfl, hs⟩

theorem blind_lift (x : Except Fault α) : Blind h ls P (lift x) := by
  intro s s' hs
  rw [run_lift, run_lift]
  exact ⟨rfl, hs⟩

theorem blind_log (hP : ∀ log log', P log log' → Log.Aside ls log log') (level : Level) (event : Text)
    (fields : List (Text × Json)) (logger : Option Text) : Blind h ls P (log level event fields logger) :=
  fun _ _ hs => ⟨rfl, hs.record hP _ _⟩

theorem Blind.bind {a : Action α} {f : α → Action β} (ha : Blind h ls P a) (hf : ∀ x, Blind h ls P (f x)) :
    Blind h ls P (a >>= f) := by
  intro s s' hs
  obtain ⟨hr, hs₁⟩ := ha s s' hs
  rw [run_bind, run_bind]
  generalize a.run s = x at hr hs₁ ⊢
  generalize a.run s' = x' at hr hs₁ ⊢
  obtain ⟨r, s₁⟩ := x
  obtain ⟨r', s₁'⟩ := x'
  obtain rfl : r = r' := hr
  cases r with
  | error e => exact ⟨rfl, hs₁⟩
  | ok x => exact hf x s₁ s₁' hs₁

theorem Blind.forM {xs : List β} {f : β → Action Unit} (hf : ∀ x, Blind h ls P (f x)) :
    Blind h ls P (xs.forM f) := by
  induction xs with
  | nil => exact blind_pure _
  | cons x xs ih => exact (hf x).bind fun _ => ih

/-- a step after one whose value is not looked at -/
theorem blind_after {f : Session → α × Session}
    (hf : ∀ s s', Session.Alike h ls P s s' → Session.Alike h ls P (f s).2 (f s').2) {a : Action α}
    (ha : ∀ s, a.run s = (.ok (f s).1, (f s).2)) {b : Action β} (hb : Blind h ls P b) :
    Blind h ls P (a >>= fun _ => b) := by
  intro s s' hs
  rw [run_bind, run_bind, ha, ha]
  exact hb _ _ (hf s s' hs)

theorem Blind.reporting {a : Action α} (ha : Blind h ls P a) (problem : SystemFault → Problem) :
    Blind h ls P (a.reporting problem) := by
  intro s s' hs
  obtain ⟨hr, hs₁⟩ := ha s s' hs
  rw [run_reporting, run_reporting, hr]
  exact ⟨rfl, hs₁⟩

theorem Blind.thenAlways {a : Action α} {after : Session → Session} (ha : Blind h ls P a)
    (hafter : ∀ s s', Session.Alike h ls P s s' → Session.Alike h ls P (after s) (after s')) :
    Blind h ls P (a.thenAlways after) := by
  intro s s' hs
  obtain ⟨hr, hs₁⟩ := ha s s' hs
  exact ⟨hr, hafter _ _ hs₁⟩

theorem blind_host (f : Host → Action α) (hf : Blind h ls P (f h)) : Blind h ls P (host >>= f) := by
  intro s s' hs
  rw [run_bind, run_bind, run_host, run_host, hs.host, hs.host']
  exact hf s s' hs

theorem blind_makeDirectories (p : Path) : Blind h ls P (makeDirectories p) := by
  intro s s' hs
  obtain ⟨hend, hfiles⟩ := hs.files.makeDirectoriesFrom h.here (p.parts.length + 1) p
  have hrun : ∀ t : Session, t.host = h → (makeDirectories p).run t
      = ((t.files.makeDirectoriesFrom h.here (p.parts.length + 1) p).2,
        { t with files := (t.files.makeDirectoriesFrom h.here (p.parts.length + 1) p).1 }) := by
    rintro t rfl
    rfl
  rw [hrun s hs.host, hrun s' hs.host']
  exact ⟨hend.symm, hs.setFiles hfiles⟩

theorem blind_changeFiles {change : Files → Except Fault Files}
    (hc : ∀ files files', Files.SameBut ls files files' →
      Related (Files.SameBut ls) (change files) (change files')) : Blind h ls P (changeFiles change) := by
  intro s s' hs
  rw [run_changeFiles, run_changeFiles]
  match change s.files, change s'.files, hc _ _ hs.files with
  | .ok _, .ok _, hfiles => exact ⟨rfl, hs.setFiles hfiles⟩
  | .error _, .error _, rfl => exact ⟨rfl, hs⟩

theorem blind_get {f : Session → Action α} (hf : ∀ s s', Session.Alike h ls P s s' → f s = f s')
    (hb : ∀ s, s.host = h → Blind h ls P (f s)) : Blind h ls P (get >>= f) := by
  intro s s' hs
  have hrun (t : Session) : (get >>= f).run t = (f t).run t := rfl
  rw [hrun, hrun, ← hf s s' hs]
  exact hb s hs.host s s' hs

theorem blind_openSink (destination : Text) : Blind h ls P (openSink destination) := by
  unfold openSink
  split
  · exact blind_pure _
  split
  · exact blind_pure _
  refine (blind_makeDirectories _).bind fun _ => blind_get (fun s s' hs => ?_) fun s _ => ?_
  · have hlocate := hs.files.locate h.here (Path.ofText destination).simplified
    dsimp only
    rw [hs.host, hs.host', hlocate]
  · refine (blind_changeFiles fun _ _ hf => hf.update _ _ _).bind fun _ => ?_
    split
    · exact blind_pure _
    · exact blind_pure _

theorem blind_openRoute (level : Level) (o : LogOutput) : Blind h ls Eq (openRoute level o) := by
  refine (blind_openSink _).bind fun sink s s' hs => ⟨rfl, hs.host, hs.host', ?_, hs.files⟩
  have hlog : s.log = s'.log := hs.log
  let route : Route := { sink, format := o.format, level := o.level.getD level }
  show Log.mk s.log.level (s.log.routes ++ [route]) = Log.mk s'.log.level (s'.log.routes ++ [route])
  rw [hlog]

/-- opening the outputs of the log ends alike, whatever the log was before -/
theorem run_openLog_alike {s s' : Session} (hs : Session.Alike h ls P s s') (l : LogSettings) :
    ((openLog l).run s).1 = ((openLog l).run s').1
      ∧ Session.Alike h ls Eq ((openLog l).run s).2 ((openLog l).run s').2 := by
  have hrun (t : Session) : (openLog l).run t
      = (l.outputs.forM (openRoute l.level)).run { t with log := { level := l.level } } := rfl
  rw [hrun, hrun]
  exact Blind.forM (fun o => blind_openRoute l.level o) _ _ (hs.setLog _)

end Action

/-! ## runs -/

/-- the other programs of a host are functions of what they are given, and change no files -/
def Host.Transforms (h : Host) : Prop :=
  ∃ f : List Text → Bytes → Binary64 → ProgramResult, ∀ files command bytes timeout,
    h.run files command bytes timeout = (f command bytes timeout, files)

/-- other programs of a host see nothing of the files at some locations, and leave them where they are: they end alike
on files that are the same but for those -/
structure Host.Overlooks (h : Host) (ls : List Location) : Prop where
  ends {files files' : Files} (hf : Files.SameBut ls files files') (command : List Text) (bytes : Bytes)
    (timeout : Binary64) : (h.run files command bytes timeout).1 = (h.run files' command bytes timeout).1
      ∧ Files.SameBut ls (h.run files command bytes timeout).2 (h.run files' command bytes timeout).2
  stays (files : Files) (command : List Text) (bytes : Bytes) (timeout : Binary64) {l : Location} (hl : l ∈ ls) :
    files.whereabouts (h.run files command bytes timeout).2 l = some l

theorem Files.whereabouts_self (files : Files) (l : Location) : files.whereabouts files l = some l := by
  rw [whereabouts, Nat.sub_self, List.take_zero]
  rfl

theorem Host.Transforms.overlooks {h : Host} (hh : h.Transforms) (ls : List Location) : h.Overlooks ls := by
  obtain ⟨f, hf⟩ := hh
  refine ⟨fun hfiles command bytes timeout => ?_, fun files command bytes timeout l _ => ?_⟩
  · rw [hf, hf]
    exact ⟨rfl, hfiles⟩
  · rw [hf]
    exact files.whereabouts_self l

/-- an open log output whose file is still where it was stays as it is -/
theorem Session.withFiles_eq {s : Session} {files : Files}
    (h : ∀ l ∈ s.log.files, s.files.whereabouts files l = some l) : s.withFiles files = { s with files } := by
  have hmap (f : Route → Route) (hf : ∀ r ∈ s.log.routes, f r = r) :
      { s with files, log := { s.log with routes := s.log.routes.map f } } = { s with files } := by
    rw [List.map_congr_left hf, List.map_id']
  refine hmap _ fun r hr => ?_
  split
  · rename_i l hl
    rw [h l (mem_files hr hl)]
    show { r with sink := Sink.file l } = r
    rw [← hl]
  · rfl

namespace Formatter

variable {h : Host} {ls : List Location} {P : Log → Log → Prop}
  (hP : ∀ log log', P log log' → Log.Aside ls log log')

/-- what is taken of a formatter that has ended in some way -/
def taken (f : FormatterSettings) (t : Text) (r : ProgramResult) : Action Text := do
  match ← Action.lift (result f.command f.timeout r) with
  | .error failure =>
    Action.log .warning "formatter_failed"
      [("command", .text (programName f.command)), ("error", .text failure.error),
       ("stderr", (failure.errors.map Json.text).getD .null)]
    pure (Style.tidied t)
  | .ok text =>
    if text.allBlank then
      Action.log .warning "formatter_empty_output" [("command", .text (programName f.command))]
      pure (Style.tidied t)
    else pure text

theorem formatted_disabled {f : FormatterSettings} (h : f.enabled = false) (t : Text) : formatted f t = pure t := by
  unfold formatted
  rw [h]
  rfl

theorem run_formatted_unnamed {f : FormatterSettings} (he : f.enabled = true) {fault : Fault}
    (hname : f.command.findSome? Files.nameFault? = some fault) (t : Text) (s : Session) :
    (formatted f t).run s = (.error fault, s) := by
  unfold formatted
  rw [he, hname]
  rfl

theorem run_formatted_named {f : FormatterSettings} (he : f.enabled = true)
    (hname : f.command.findSome? Files.nameFault? = none) (t : Text) (s : Session) : (formatted f t).run s
      = (match s.host.run s.files f.command t.toBytes f.timeout with
        | (r, files) => (do
          if let .error fault := given t r then Action.fail fault
          modify fun s : Session => s.withFiles files
          taken f t r : Action Text)).run s := by
  unfold formatted
  rw [he, hname]
  rfl

/-- a formatter that is run, and may change files -/
theorem run_formatted_run {f : FormatterSettings} (he : f.enabled = true)
    (hname : f.command.findSome? Files.nameFault? = none) {s : Session} {t : Text} {r : ProgramResult}
    {files : Files} (hr : s.host.run s.files f.command t.toBytes f.timeout = (r, files)) : (formatted f t).run s
      = (Action.lift (given t r) >>= fun _ => modify (fun s : Session => s.withFiles files) >>= fun _ =>
        taken f t r).run s := by
  rw [run_formatted_named he hname, hr]
  dsimp only
  cases given t r <;> rfl

include hP in
theorem blind_taken (f : FormatterSettings) (t : Text) (r : ProgramResult) :
    Action.Blind h ls P (taken f t r) := by
  refine (Action.blind_lift _).bind fun outcome => ?_
  cases outcome with
  | error failure => exact (Action.blind_log hP _ _ _ _).bind fun _ => Action.blind_pure _
  | ok text =>
    dsimp only
    split
    · exact (Action.blind_log hP _ _ _ _).bind fun _ => Action.blind_pure _
    · exact Action.blind_pure _

include hP in
theorem blind_formatted (hh : h.Overlooks ls) (f : FormatterSettings) (t : Text) :
    Action.Blind h ls P (formatted f t) := by
  cases he : f.enabled with
  | false =>
    rw [formatted_disabled he]
    exact Action.blind_pure t
  | true =>
    cases hname : f.command.findSome? Files.nameFault? with
    | some fault =>
      intro s s' hs
      rw [run_formatted_unnamed he hname, run_formatted_unnamed he hname]
      exact ⟨rfl, hs⟩
    | none =>
      intro s s' hs
      obtain ⟨hend, hfiles⟩ := hh.ends hs.files f.command t.toBytes f.timeout
      rw [run_formatted_run he hname rfl, run_formatted_run he hname rfl, hs.host, hs.host', ← hend]
      cases given t (h.run s.files f.command t.toBytes f.timeout).1 with
      | error fault => exact ⟨rfl, hs⟩
      -- the log goes to files that the formatter leaves where they are
      | ok _ =>
        have hstays {t : Session} (ht : t.log.files ⊆ ls) (command : List Text) (bytes : Bytes) (timeout : Binary64) :
            t.withFiles (h.run t.files command bytes timeout).2
              = { t with files := (h.run t.files command bytes timeout).2 } :=
          Session.withFiles_eq fun l hl => hh.stays _ _ _ _ (ht hl)
        refine blind_taken hP f t _ (s.withFiles _) (s'.withFiles _) ?_
        rw [hstays (hP _ _ hs.log).1, hstays (hP _ _ hs.log).2]
        exact hs.setFiles hfiles

end Formatter

namespace Run

variable {h : Host} {ls : List Location} {P : Log → Log → Prop}
  (hP : ∀ log log', P log log' → Log.Aside ls log log')
include hP

theorem blind_write (text : Text) (path : Path) : Action.Blind h ls P (write text path) := by
  refine Action.blind_host _ ?_
  refine Action.Blind.bind (Action.Blind.reporting ?_ _) fun _ =>
    (Action.blind_log hP _ _ _ _).bind fun _ => Action.blind_pure _
  refine (Action.blind_makeDirectories _).bind fun _ => ?_
  refine (Action.blind_changeFiles fun files files' hf => hf.update _ _ _).bind fun _ => ?_
  exact (Action.blind_lift _).bind fun _ => Action.blind_pure _

theorem blind_readSchema (datamodel : Json) : Action.Blind h ls P (readSchema datamodel) := by
  refine (Action.Blind.forM fun n => Action.blind_log hP _ _ _ _).bind fun _ => ?_
  refine (Action.blind_lift _).bind fun s => ?_
  exact (Action.blind_log hP _ _ _ _).bind fun _ => Action.blind_pure _

theorem blind_assemble (settings : Settings) (s : Schema) : Action.Blind h ls P (assemble settings s) :=
  (Action.blind_lift _).bind fun _ => (Action.blind_log hP _ _ _ _).bind fun _ => Action.blind_pure _

theorem blind_generateTo (hh : h.Overlooks ls) (path : Path) (datamodel : Json) (settings : Settings) :
    Action.Blind h ls P (generateTo path datamodel settings) := by
  refine (blind_readSchema hP datamodel).bind fun s => ?_
  refine (blind_assemble hP settings s).bind fun t => ?_
  refine (Formatter.blind_formatted hP hh _ t).bind fun text => ?_
  refine (blind_write hP text path).bind fun _ => ?_
  exact (Action.blind_log hP _ _ _ _).bind fun _ => Action.blind_pure _

/-- a run does not see what is left out of account -/
theorem blind_generate (hh : h.Overlooks ls) (datamodel : Json) (settings : Settings) (base : Option Path) :
    Action.Blind h ls P (generate datamodel settings base) := by
  refine Action.Blind.bind (Action.blind_host _ (Action.blind_lift _)) fun path => ?_
  refine Action.blind_after (f := fun s => (s.host.runName s.runs,
    { s with runId := some (s.host.runName s.runs), runs := s.runs + 1 })) ?_ (fun s => rfl) ?_
  · exact fun s s' hs => hs.setRun _ _ _ _
  · exact (blind_generateTo hP hh path datamodel settings).thenAlways fun s s' hs => hs.setRun _ _ _ _

end Run
end DatabaseTypes
