import DatabaseTypes.Proofs.Action
import DatabaseTypes.Proofs.Yaml.Keys
import DatabaseTypes.Settings.Load

/-!
# Loading as a function of the machine

Loading settings changes nothing, and depends on the host and on its files alone.

* `Settings.fileSays`    what a settings file says, by the files
* `Settings.loadFrom`    the settings of a project, by the host and its files
* `Settings.run_load`    loading settings
* `Settings.orderly_fileSays`   no mapping of a settings file has one key twice
-/

namespace DatabaseTypes.Settings

open Yaml

/-- what a settings file says, by the files -/
def fileSays (files : Files) (here : Location) (path : Path) : Except Fault (List (Value × Value)) := do
  if ← files.exists? here path then entriesOf path (← files.read here path) else pure []

/-- the settings of a project, by the host and its files -/
def loadFrom (host : Host) (files : Files) (root : Path) (given : List (Text × Json)) :
    Except Fault Settings := do
  let users ← fileSays files host.here host.globalSettings
  let projects ← fileSays files host.here ((Path.ofText fileName).under root)
  let files ← (Entries.overriding projects users).mapError .beyond
  let environment ← fromVariables host.environment
  let all ← (merged (Value.ofJsonMembers given) environment files).mapError .beyond
  ofMerged host.homes all

theorem run_fileEntries (path : Path) (s : Session) :
    (fileEntries path).run s = (fileSays s.files s.host.here path, s) := by
  refine Action.run_bind_unchanged (x := s.files.exists? s.host.here path) (Action.run_lift _ s)
    fun there => ?_
  cases there with
  | false => rfl
  | true => exact Action.run_bind_unchanged (Action.run_lift _ s) fun bytes => Action.run_lift _ s

/-- loading settings changes nothing -/
theorem run_load (root : Path) (given : List (Text × Json)) (s : Session) :
    (load root given).run s = (loadFrom s.host s.files root given, s) := by
  rw [load, Action.run_bind, Action.run_host, loadFrom]
  dsimp only
  refine Action.run_bind_unchanged (run_fileEntries _ s) fun users => ?_
  refine Action.run_bind_unchanged (run_fileEntries _ s) fun projects => ?_
  refine Action.run_bind_unchanged (Action.run_lift _ s) fun files => ?_
  refine Action.run_bind_unchanged (Action.run_lift _ s) fun environment => ?_
  exact Action.run_bind_unchanged (Action.run_lift _ s) fun all => Action.run_lift _ s

/-! ## keys -/

theorem orderly_entriesOf {path : Path} {bytes : Bytes} {es : List (Value × Value)}
    (h : entriesOf path bytes = .ok es) : Entries.Distinct es ∧ ∀ e ∈ es, e.2.Orderly := by
  unfold entriesOf at h
  split at h
  · cases h
  · cases h
  · rename_i v hv
    split at h
    · rename_i entries hopened
      cases h
      exact (orderly_ofBytes hv).mapping hopened
    · split at h
      · cases h
      · cases h
        exact ⟨.nil, nofun⟩

/-- no mapping of a settings file has one key twice -/
theorem orderly_fileSays {files : Files} {here : Location} {path : Path} {es : List (Value × Value)}
    (h : fileSays files here path = .ok es) : Entries.Distinct es ∧ ∀ e ∈ es, e.2.Orderly := by
  unfold fileSays at h
  rcases hthere : files.exists? here path with f | (_ | _)
  · rw [hthere] at h
    cases h
  · rw [hthere] at h
    cases h
    exact ⟨.nil, nofun⟩
  · rw [hthere] at h
    obtain ⟨bytes, _, hentries⟩ := Outcome.bind_eq_ok_iff (x := files.read here path).mp h
    exact orderly_entriesOf hentries

end DatabaseTypes.Settings
