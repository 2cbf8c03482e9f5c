import DatabaseTypes.Proofs.Settings.Alike
import DatabaseTypes.Proofs.Settings.Precedence
import DatabaseTypes.Proofs.Yaml.Faults

/-!
# What is reported of settings

Settings that cannot be loaded are reported as a problem: a settings file that cannot be read, by its path, or a
setting that has a value it cannot have, by its place.  Some faults are no problems, and end loading without a
report; each of them has its cause in what is given.

* `Verdict.Explains`     a verdict that names an issue, or has a fault of a certain sort
* `Settings.Reported`    the problems that are reported, with their causes
* `Settings.Unreported`  the faults that are not, with theirs
* `Settings.load_ends`   how loading ends
-/

namespace DatabaseTypes

open Yaml

/-! ## verdicts that explain themselves -/

namespace Verdict

variable {α β : Type} {P : Fault → Prop}

/-- a verdict names an issue if it is bad, and a fault with a property if it is broken -/
def Explains (P : Fault → Prop) : Verdict α → Prop
  | .good _ => True
  | .bad issues => issues ≠ []
  | .broken f => P f

theorem explains_issue (cause : Issue.Cause) (v : Value) : Explains P (issue cause v : Verdict α) :=
  List.cons_ne_nil _ _

theorem Explains.map {v : Verdict α} (h : v.Explains P) (f : α → β) : (v.map f).Explains P := by
  cases v <;> exact h

theorem Explains.andThen {v : Verdict α} (h : v.Explains P) {f : α → Verdict β}
    (hf : ∀ a, v = .good a → (f a).Explains P) : (v.andThen f).Explains P := by
  cases v with
  | good a => exact hf a rfl
  | bad issues => exact h
  | broken f => exact h

theorem Explains.both {v : Verdict α} {w : Verdict β} (hv : v.Explains P) (hw : w.Explains P) :
    (v.both w).Explains P := by
  cases v <;> cases w <;> first | exact hv | exact hw | exact List.append_ne_nil_of_left_ne_nil hv _

theorem Explains.under {v : Verdict α} (h : v.Explains P) (part : Text) : (v.under part).Explains P := by
  cases v with
  | bad issues => exact mt List.map_eq_nil_iff.mp h
  | good a => exact h
  | broken f => exact h

theorem Explains.all {vs : List (Verdict α)} (h : ∀ v ∈ vs, v.Explains P) :
    (Verdict.all vs).Explains P := by
  induction vs with
  | nil => exact trivial
  | cons v vs ih =>
    have htail := ih fun w hw => h w (List.mem_cons_of_mem _ hw)
    exact ((h v List.mem_cons_self).both htail).map _

end Verdict

namespace Check

open Verdict

variable {α : Type} {P : Fault → Prop} {v : Value}

theorem explains_bool : (bool v).Explains P := by
  have hint (i : Int) : (boolOfInt v i).Explains P := by
    unfold boolOfInt
    split
    · exact trivial
    · split
      · exact trivial
      · exact explains_issue _ _
  have htext (t : Text) : (boolOfText v t).Explains P := by
    unfold boolOfText
    dsimp only
    split
    · exact explains_issue _ _
    · split
      · exact trivial
      · split
        · exact trivial
        · exact explains_issue _ _
  unfold bool
  split
  · exact trivial
  · split
    · exact hint _
    · exact explains_issue _ _
  · unfold boolOfFloat
    split
    · split
      · exact hint _
      · exact explains_issue _ _
    · exact explains_issue _ _
  · exact htext _
  · split
    · exact htext _
    · exact explains_issue _ _
  · exact explains_issue _ _

theorem explains_text : (text v).Explains P := by
  unfold text
  split
  · exact trivial
  · split
    · exact trivial
    · exact explains_issue _ _
  · exact explains_issue _ _

theorem explains_number : (number v).Explains P := by
  have htext (t : Text) : (numberOfText v t).Explains P := by
    unfold numberOfText
    split
    · exact explains_issue _ _
    · split
      · exact trivial
      · exact explains_issue _ _
  unfold number
  split
  · exact trivial
  · exact trivial
  · split
    · exact explains_issue _ _
    · exact trivial
  · exact htext _
  · split
    · exact htext _
    · exact explains_issue _ _
  · exact explains_issue _ _

theorem explains_word {name : α → Text} {all : List α} : (word name all v).Explains P := by
  unfold word
  dsimp only
  split
  · exact trivial
  · exact explains_issue _ _

theorem explains_optional {check : Value → Verdict α} (h : (check v).Explains P) :
    (optional check v).Explains P := by
  unfold optional
  split
  · exact trivial
  · exact h.map _

theorem explains_list {check : Value → Verdict α}
    (h : ∀ items, items? v = some items → ∀ item ∈ items, (check item).Explains P) :
    (list check v).Explains P := by
  unfold list
  split
  · rename_i items hitems
    refine Explains.all fun w hw => ?_
    obtain ⟨i, hi, rfl⟩ := List.mem_mapIdx.mp hw
    exact (h items hitems _ (List.getElem_mem hi)).under _
  · exact explains_issue _ _

theorem explains_keeping {rule : α → Option Text} {verdict : Verdict α} (h : verdict.Explains P) :
    (keeping v rule verdict).Explains P := by
  refine h.andThen fun a _ => ?_
  split
  · exact trivial
  · exact explains_issue _ _

theorem explains_member {key : Text} {absent : α} {check : Value → Verdict α}
    {es : List (Value × Value)} (h : ∀ v, Entries.find? (.text key) es = some v → (check v).Explains P) :
    (member key absent check es).Explains P := by
  unfold member
  split
  · exact trivial
  · rename_i v hv
    exact (h v hv).under _

theorem explains_group {name : Text} {check : List (Value × Value) → Verdict α}
    (h : ∀ es, v.opened = .mapping es → (check es).Explains P) : (group name check v).Explains P := by
  unfold group
  split
  · rename_i es hes
    exact h es hes
  · exact explains_issue _ _

end Check

/-! ## broken checks -/

/-- do entries set a destination of log messages? -/
def SetsDestination (es : List (Value × Value)) (t : Text) : Prop :=
  ∃ logging, Entries.find? (.text "logging") es = some logging
    ∧ ∃ outputs, logging.get? "outputs" = some outputs
    ∧ ∃ items, Check.items? outputs = some items
    ∧ ∃ item ∈ items, ∃ destination, item.get? "destination" = some destination
    ∧ Check.text destination = .good t

section
variable {homes : Path.Homes} {P : Fault → Prop} {v : Value}

theorem get?_of_opened {es : List (Value × Value)} (h : v.opened = .mapping es) (name : Text) :
    v.get? name = Entries.find? (.text name) es := by
  rw [Value.get?, h]

theorem LogOutput.explains_checkDestination
    (hP : ∀ t f, Check.text v = .good t → (Path.ofText t).expanded homes = .error f → P f) :
    (checkDestination homes v).Explains P := by
  refine Check.explains_text.andThen fun t ht => ?_
  split
  · exact trivial
  · split
    · rename_i f hf
      exact hP t f ht hf
    · split
      · exact trivial
      · exact Verdict.explains_issue _ _

theorem LogOutput.explains_check (hP : ∀ d t f, v.get? "destination" = some d → Check.text d = .good t →
    (Path.ofText t).expanded homes = .error f → P f) : (check homes v).Explains P := by
  refine Check.explains_group fun es hes => Verdict.Explains.map ?_ _
  refine (Check.explains_member fun _ _ => Check.explains_word).both (.both ?_ ?_)
  · refine Check.explains_member fun d hd => explains_checkDestination fun t f ht hf => ?_
    exact hP d t f ((get?_of_opened hes _).trans hd) ht hf
  · exact Check.explains_member fun _ _ => Check.explains_optional Check.explains_word

theorem LogSettings.explains_check (hP : ∀ outputs, v.get? "outputs" = some outputs →
    ∀ items, Check.items? outputs = some items → ∀ item ∈ items, ∀ d t f,
      item.get? "destination" = some d → Check.text d = .good t →
      (Path.ofText t).expanded homes = .error f → P f) : (check homes v).Explains P := by
  refine Check.explains_group fun es hes => Verdict.Explains.map ?_ _
  refine (Check.explains_member fun _ _ => Check.explains_word).both ?_
  refine Check.explains_member fun outputs houtputs => ?_
  refine Check.explains_list fun items hitems item hitem => ?_
  refine LogOutput.explains_check (hP outputs ?_ items hitems item hitem)
  exact (get?_of_opened hes _).trans houtputs

theorem GeneratorSettings.explains_check : (check v).Explains P := by
  refine Check.explains_group fun es _ => Verdict.Explains.map ?_ _
  refine (Check.explains_member fun _ _ => Check.explains_bool).both ?_
  exact Check.explains_member fun _ _ => Check.explains_optional Check.explains_text

theorem FormatterSettings.explains_check : (check v).Explains P := by
  refine Check.explains_group fun es _ => Verdict.Explains.map ?_ _
  refine (Check.explains_member fun _ _ => Check.explains_bool).both (.both ?_ ?_)
  · refine Check.explains_member fun _ _ => Check.explains_keeping ?_
    exact Check.explains_list fun _ _ _ _ => Check.explains_text
  · exact Check.explains_member fun _ _ => Check.explains_keeping Check.explains_number

/-- checking settings is broken only by a destination of log messages, where a home directory is not known -/
theorem Settings.explains_checkAll {es : List (Value × Value)} :
    (checkAll homes es).Explains fun f =>
      ∃ t, SetsDestination es t ∧ (Path.ofText t).expanded homes = .error f := by
  refine Verdict.Explains.map (.both ?_ ?_) _
  · refine Check.explains_group fun es' hes => Verdict.Explains.map ?_ _
    cases hes
    refine (Check.explains_member fun logging hlogging => ?_).both (.both ?_ ?_)
    · refine LogSettings.explains_check fun outputs ho items hi item hmem d t f hd ht hf => ⟨t, ?_, hf⟩
      exact ⟨logging, hlogging, outputs, ho, items, hi, item, hmem, d, hd, ht⟩
    · exact Check.explains_member fun _ _ => GeneratorSettings.explains_check
    · exact Check.explains_member fun _ _ => FormatterSettings.explains_check
  · split
    · exact trivial
    · rename_i hissues
      exact hissues

end

/-! ## overriding without an end -/

theorem Entries.error_of_putAll {ε : Type} {f : Value → Option Value → Except ε Value} {e : ε}
    {entries base : List (Value × Value)} (h : Entries.putAll f entries base = .error e) :
    ∃ entry ∈ entries, ∃ old, f entry.2 old = .error e := by
  induction entries generalizing base with
  | nil => cases h
  | cons entry entries ih =>
    rw [Entries.putAll] at h
    split at h
    · rename_i e' he'
      cases h
      exact ⟨entry, List.mem_cons_self, _, he'⟩
    · obtain ⟨x, hx, old, ho⟩ := ih h
      exact ⟨x, List.mem_cons_of_mem _ hx, old, ho⟩

theorem Value.endless_of_overriding {depth : Nat} {v : Value} {old : Option Value} {l : Limit}
    (h : Value.overriding depth v old = .error l) : l = .endlessOverride := by
  induction depth generalizing v old with
  | zero =>
    rw [Value.overriding] at h
    split at h
    · cases h
      rfl
    · cases h
  | succ depth ih =>
    rw [Value.overriding] at h
    split at h
    · rename_i entries base _
      cases hp : Entries.putAll (Value.overriding depth) entries base with
      | ok es =>
        rw [hp] at h
        cases h
      | error l' =>
        rw [hp] at h
        cases h
        obtain ⟨_, _, _, he⟩ := Entries.error_of_putAll hp
        exact ih he
    · cases h

/-- entries override others without an end only if they hold mappings that are nested too deep -/
theorem Settings.endless_of_overriding {entries base : List (Value × Value)} {l : Limit}
    (h : Entries.overriding entries base = .error l) : l = .endlessOverride ∧ ¬ Shallow entries := by
  constructor
  · obtain ⟨_, _, _, he⟩ := Entries.error_of_putAll h
    exact Value.endless_of_overriding he
  · intro hs
    obtain ⟨es, hes⟩ := hs.exists_overriding base
    rw [h] at hes
    cases hes

/-! ## files that cannot be read -/

namespace Files

variable {files : Files} {here : Location} {p : Path} {f : Fault}

theorem not_problem_of_nameFault {t : Text} (h : nameFault? t = some f) (q : Problem) : f ≠ .problem q := by
  unfold nameFault? at h
  split at h
  · cases h
    exact nofun
  · split at h
    · cases h
      exact nofun
    · cases h

theorem not_problem_of_exists? (h : files.exists? here p = .error f) (q : Problem) : f ≠ .problem q := by
  unfold exists? holds at h
  split at h
  · cases h
  · split at h <;> cases h
    exact nofun

theorem not_problem_of_read (h : files.read here p = .error f) (q : Problem) : f ≠ .problem q := by
  unfold read at h
  split at h
  · rename_i f' hname
    cases h
    exact not_problem_of_nameFault hname q
  · split at h <;> cases h <;> exact nofun

end Files

namespace Settings

/-! ## variables -/

/-- is a variable read as a JSON text for a group? One that sets the whole group is, and one that sets a
list in it. -/
def Group.Decodes (g : Group) (name : Text) : Prop :=
  name = g.variableName ∨ ∃ path, Text.after? (g.variableName ++ Environment.separator) name = some path
    ∧ ∃ key ∈ g.listKeys, Text.splitText Environment.separator path = [key]

/-- the fault of a variable that is no JSON text, or one that goes too deep -/
inductive Group.Undecoded (g : Group) (t : Text) : Fault → Prop
  | unreadable {e : Json.ReadFault} (h : Json.ofText t = .error e) : Undecoded g t (.unreadableVariable g.name)
  | lists (h : Json.ofText t = .error (.beyond .listDepth)) : Undecoded g t (.beyond .listDepth)
  | objects (h : Json.ofText t = .error (.beyond .objectDepth)) : Undecoded g t (.beyond .objectDepth)

theorem Group.undecoded_of_decoded {g : Group} {t : Text} {f : Fault} (h : g.decoded t = .error f) :
    g.Undecoded t f := by
  unfold decoded at h
  split at h
  · cases h
  · cases h
    exact .lists ‹_›
  · cases h
    exact .objects ‹_›
  · cases h
    exact .unreadable ‹_›

/-- what is wrong with the variables of a group -/
inductive Group.Misled (g : Group) (vars : Environment) : Fault → Prop
  | text {name t : Text} {f : Fault} (hmem : (name, t) ∈ vars) (hname : g.Decodes name) (h : g.Undecoded t f) :
    Misled g vars f
  | endless {es : List (Value × Value)} (hes : g.exploded vars = .ok es) (hdeep : ¬ Shallow es) :
    Misled g vars (.beyond .endlessOverride)

theorem Group.misled_of_exploded {g : Group} {vars : Environment} {f : Fault}
    (h : g.exploded vars = .error f) : g.Misled vars f := by
  obtain ⟨⟨name, t⟩, hmem, es, hes⟩ := Outcome.exists_of_foldlM_eq_error h
  dsimp only at hes
  cases hpath : Text.after? (g.variableName ++ Environment.separator) name with
  | none =>
    rw [hpath] at hes
    cases hes
  | some path =>
    rw [hpath] at hes
    rcases Outcome.bind_eq_error_iff.mp hes with hsingle | ⟨_, _, hput⟩
    · unfold single at hsingle
      split at hsingle
      · rename_i hlist
        obtain ⟨key, hkey, hnames⟩ := List.any_eq_true.mp (Bool.and_eq_true_iff.mp hlist).1
        exact .text hmem (.inr ⟨path, hpath, key, hkey, eq_of_beq hnames⟩) (undecoded_of_decoded hsingle)
      · cases hsingle
    · cases hput

theorem Group.misled_of_fromVariables {g : Group} {vars : Environment} {f : Fault}
    (h : g.fromVariables vars = .error f) : g.Misled vars f := by
  unfold fromVariables at h
  split at h
  · rcases Outcome.bind_eq_error_iff.mp h with hexploded | ⟨_, _, hpure⟩
    · exact misled_of_exploded hexploded
    · cases hpure
  · rename_i t ht
    rcases Outcome.bind_eq_error_iff.mp h with hdecoded | ⟨v, _, hrest⟩
    · obtain ⟨_, _, hvars, _⟩ := List.lookup_eq_some_iff.mp ht
      have hmem : (g.variableName, t) ∈ vars := by
        rw [hvars]
        exact List.mem_append_right _ List.mem_cons_self
      exact .text hmem (.inl rfl) (undecoded_of_decoded hdecoded)
    · split at hrest
      · cases hrest
      · rename_i base _
        rcases Outcome.bind_eq_error_iff.mp hrest with hexploded | ⟨es, hes, hrest⟩
        · exact misled_of_exploded hexploded
        · rcases Outcome.bind_eq_error_iff.mp hrest with hover | ⟨_, _, hpure⟩
          · cases hl : Entries.overriding es base with
            | ok _ =>
              rw [hl] at hover
              cases hover
            | error l =>
              rw [hl] at hover
              cases hover
              obtain ⟨rfl, hdeep⟩ := endless_of_overriding hl
              exact .endless hes hdeep
          · cases hpure
      · cases hrest

theorem exists_misled {env : Environment} {f : Fault} (h : fromVariables env = .error f) :
    ∃ g ∈ groups, g.Misled env.folded f := by
  rcases Outcome.bind_eq_error_iff.mp h with hmap | ⟨_, _, hpure⟩
  · obtain ⟨g, hg, hfrom⟩ := Outcome.exists_of_mapM_eq_error hmap
    rcases Outcome.bind_eq_error_iff.mp hfrom with hfrom | ⟨_, _, hpure⟩
    · exact ⟨g, hg, Group.misled_of_fromVariables hfrom⟩
    · cases hpure
  · cases hpure

/-- variables name groups by texts -/
theorem isText_of_fromVariables {env : Environment} {es : List (Value × Value)}
    (h : fromVariables env = .ok es) : ∀ e ∈ es, e.1.isText = true := by
  obtain ⟨found, hfound, hes⟩ := Outcome.bind_eq_ok_iff.mp h
  cases hes
  intro e he
  obtain ⟨x, hx, hxe⟩ := List.mem_filterMap.mp he
  obtain ⟨g, _, hg⟩ := Outcome.exists_of_mem_mapM hfound hx
  obtain ⟨v, _, hv⟩ := Outcome.bind_eq_ok_iff.mp hg
  cases hv
  obtain ⟨w, _, rfl⟩ := Option.map_eq_some_iff.mp hxe
  rfl

theorem isText_ofJsonMembers (ms : List (Text × Json)) : ∀ e ∈ Value.ofJsonMembers ms, e.1.isText = true := by
  induction ms with
  | nil => exact nofun
  | cons m ms ih => exact List.forall_mem_cons.mpr ⟨rfl, ih⟩

/-! ## everything that is given -/

/-- what the caller, the variables and the files give, before it is checked -/
def combined (host : Host) (files : Files) (root : Path) (given : List (Text × Json)) :
    Except Fault (List (Value × Value)) := do
  let users ← fileSays files host.here host.globalSettings
  let projects ← fileSays files host.here ((Path.ofText fileName).under root)
  let files ← (Entries.overriding projects users).mapError .beyond
  let environment ← fromVariables host.environment
  (merged (Value.ofJsonMembers given) environment files).mapError .beyond

theorem loadFrom_eq (host : Host) (files : Files) (root : Path) (given : List (Text × Json)) :
    loadFrom host files root given = combined host files root given >>= ofMerged host.homes := by
  simp only [loadFrom, combined, bind_assoc]

/-- the settings files of a project: that of the user, and its own -/
def sources (host : Host) (root : Path) : List Path :=
  [host.globalSettings, (Path.ofText fileName).under root]

/-- the problems that are reported of settings, each with its cause -/
inductive Reported (s : Session) (root : Path) (given : List (Text × Json)) : Problem → Prop
  /-- a settings file is not well formed -/
  | mistake {path : Path} {bytes : Bytes} {line : Nat} {m : Mistake} (hpath : path ∈ sources s.host root)
    (hread : s.files.read s.host.here path = .ok bytes)
    (hmistake : Yaml.ofBytes bytes = .error (.mistake line m)) :
    Reported s root given (.settingsUnreadable path.text (mistakeText line m))
  /-- a settings file holds something other than a mapping -/
  | noMapping {path : Path} {bytes : Bytes} {v : Value} (hpath : path ∈ sources s.host root)
    (hread : s.files.read s.host.here path = .ok bytes) (hvalue : Yaml.ofBytes bytes = .ok v)
    (hother : v.isMapping = false) :
    Reported s root given (.settingsUnreadable path.text "top level must be a mapping")
  /-- a setting has a value it cannot have, or there is no such setting -/
  | invalid {es : List (Value × Value)} {i : Issue} {others : List Issue} {shown : Text}
    (hcombined : combined s.host s.files root given = .ok es)
    (hbad : checkAll s.host.homes es = .bad (i :: others)) (hshown : i.shown = some shown) :
    Reported s root given (.settingInvalid (Text.joined ['.'] i.place) shown i.cause.message)

/-- the faults of loading settings that are not reported, each with its cause -/
inductive Unreported (s : Session) (root : Path) (given : List (Text × Json)) : Fault → Prop
  /-- the system refuses to read a settings file -/
  | file {path : Path} {f : Fault} (hpath : path ∈ sources s.host root)
    (h : s.files.exists? s.host.here path = .error f ∨ s.files.read s.host.here path = .error f) :
    Unreported s root given f
  /-- a settings file asks for a value that cannot be made -/
  | value {path : Path} {bytes : Bytes} {f : Fault} (hpath : path ∈ sources s.host root)
    (hread : s.files.read s.host.here path = .ok bytes) (hvalue : Yaml.ofBytes bytes = .error (.fault f))
    (hf : IsFault f) : Unreported s root given f
  /-- a settings file has a name that is no text -/
  | name {path : Path} {es : List (Value × Value)} {e : Value × Value} (hpath : path ∈ sources s.host root)
    (hsaid : fileSays s.files s.host.here path = .ok es) (he : e ∈ es) (hname : e.1.isText = false) :
    Unreported s root given .nameNotText
  /-- a variable is no JSON text -/
  | variable {g : Group} {f : Fault} (hg : g ∈ groups) (h : g.Misled (Environment.folded s.host.environment) f) :
    Unreported s root given f
  /-- mappings are nested too deep to override others -/
  | endless {es : List (Value × Value)} (hes : es = Value.ofJsonMembers given
      ∨ fromVariables s.host.environment = .ok es
      ∨ fileSays s.files s.host.here ((Path.ofText fileName).under root) = .ok es)
    (hdeep : ¬ Shallow es) : Unreported s root given (.beyond .endlessOverride)
  /-- a destination of log messages is in a home directory that is not known -/
  | homeless {es : List (Value × Value)} {t : Text} (hcombined : combined s.host s.files root given = .ok es)
    (hset : SetsDestination es t) (hhome : (Path.ofText t).expanded s.host.homes = .error .homeless) :
    Unreported s root given .homeless
  /-- a setting has a value it cannot have, which is too long to be written -/
  | digits {es : List (Value × Value)} {i : Issue} {others : List Issue}
    (hcombined : combined s.host s.files root given = .ok es)
    (hbad : checkAll s.host.homes es = .bad (i :: others)) (hshown : i.shown = none) :
    Unreported s root given (.beyond .digitsWritten)

/-- how loading settings ends: with settings that pass their check, with a problem that is reported, or
with a fault that is no problem -/
inductive Ending (s : Session) (root : Path) (given : List (Text × Json)) : Except Fault Settings → Prop
  | loaded {es : List (Value × Value)} {settings : Settings}
    (hcombined : combined s.host s.files root given = .ok es)
    (hgood : checkAll s.host.homes es = .good settings) : Ending s root given (.ok settings)
  | reported {p : Problem} (h : Reported s root given p) : Ending s root given (.error (.problem p))
  | unreported {f : Fault} (h : Unreported s root given f) (hf : ∀ p, f ≠ .problem p) :
    Ending s root given (.error f)

section
variable {s : Session} {root path : Path} {given : List (Text × Json)}

theorem not_problem_of_isFault {f : Fault} (h : IsFault f) (p : Problem) : f ≠ .problem p := by
  rintro rfl
  exact h

theorem Group.Undecoded.not_problem {g : Group} {t : Text} {f : Fault} (h : g.Undecoded t f) (p : Problem) :
    f ≠ .problem p := by
  cases h <;> exact nofun

theorem Group.Misled.not_problem {g : Group} {vars : Environment} {f : Fault} (h : g.Misled vars f)
    (p : Problem) : f ≠ .problem p := by
  cases h with
  | text _ _ h => exact h.not_problem p
  | endless => exact nofun

/-- a settings file that says nothing is at fault itself -/
theorem ending_of_fileSays {f : Fault} (hpath : path ∈ sources s.host root)
    (h : fileSays s.files s.host.here path = .error f) : Ending s root given (.error f) := by
  rcases Outcome.bind_eq_error_iff.mp h with hthere | ⟨there, _, h⟩
  · exact .unreported (.file hpath (.inl hthere)) (Files.not_problem_of_exists? hthere)
  · cases there with
    | false => cases h
    | true =>
      rcases Outcome.bind_eq_error_iff.mp h with hread | ⟨bytes, hread, h⟩
      · exact .unreported (.file hpath (.inr hread)) (Files.not_problem_of_read hread)
      · unfold entriesOf at h
        split at h
        · rename_i f' hvalue
          cases h
          have hf : IsFault f := isExpected_of_ofBytes hvalue
          exact .unreported (.value hpath hread hvalue hf) (not_problem_of_isFault hf)
        · rename_i line m hmistake
          cases h
          exact .reported (.mistake hpath hread hmistake)
        · rename_i v hvalue
          split at h
          · cases h
          · rename_i hother
            split at h
            · cases h
              refine .reported (.noMapping hpath hread hvalue ?_)
              rw [Bool.eq_false_iff]
              intro hmapping
              obtain ⟨es, hes⟩ := Value.isMapping_iff.mp hmapping
              exact hother es hes
            · cases h

/-- what cannot be combined is not reported, unless a settings file is at fault -/
theorem ending_of_combined {f : Fault} (h : combined s.host s.files root given = .error f) :
    Ending s root given (.error f) := by
  have hendless {entries base : List (Value × Value)}
      (h : (Entries.overriding entries base).mapError Fault.beyond = .error f) :
      f = .beyond .endlessOverride ∧ ¬ Shallow entries := by
    cases hl : Entries.overriding entries base with
    | ok _ =>
      rw [hl] at h
      cases h
    | error l =>
      rw [hl] at h
      cases h
      obtain ⟨rfl, hdeep⟩ := endless_of_overriding hl
      exact ⟨rfl, hdeep⟩
  rcases Outcome.bind_eq_error_iff.mp h with husers | ⟨users, husers, h⟩
  · exact ending_of_fileSays List.mem_cons_self husers
  rcases Outcome.bind_eq_error_iff.mp h with hprojects | ⟨projects, hprojects, h⟩
  · exact ending_of_fileSays (List.mem_cons_of_mem _ List.mem_cons_self) hprojects
  rcases Outcome.bind_eq_error_iff.mp h with hfiles | ⟨files, hfiles, h⟩
  · obtain ⟨rfl, hdeep⟩ := hendless hfiles
    exact .unreported (.endless (.inr (.inr hprojects)) hdeep) nofun
  rcases Outcome.bind_eq_error_iff.mp h with henvironment | ⟨environment, henvironment, h⟩
  · obtain ⟨g, hg, hmisled⟩ := exists_misled henvironment
    exact .unreported (.variable hg hmisled) hmisled.not_problem
  cases hfirst : Entries.overriding (Value.ofJsonMembers given) environment with
  | error l =>
    rw [merged, hfirst] at h
    cases h
    obtain ⟨rfl, hdeep⟩ := endless_of_overriding hfirst
    exact .unreported (.endless (.inl rfl) hdeep) nofun
  | ok upper =>
    rw [merged, hfirst] at h
    obtain ⟨rfl, hdeep⟩ := hendless h
    by_cases hgiven : Shallow (Value.ofJsonMembers given)
    · have hvariables : ¬ Shallow environment := fun hs => hdeep (hgiven.overriding hs hfirst)
      exact .unreported (.endless (.inr (.inl henvironment)) hvariables) nofun
    · exact .unreported (.endless (.inl rfl) hgiven) nofun

/-- a name that is no text comes from a settings file -/
theorem exists_name_of_combined {es : List (Value × Value)} {e : Value × Value}
    (h : combined s.host s.files root given = .ok es) (he : e ∈ es) (hname : e.1.isText = false) :
    ∃ path ∈ sources s.host root, ∃ said, fileSays s.files s.host.here path = .ok said
      ∧ ∃ e ∈ said, e.1.isText = false := by
  obtain ⟨users, husers, h⟩ := Outcome.bind_eq_ok_iff.mp h
  obtain ⟨projects, hprojects, h⟩ := Outcome.bind_eq_ok_iff.mp h
  obtain ⟨files, hfiles, h⟩ := Outcome.bind_eq_ok_iff.mp h
  obtain ⟨environment, henvironment, h⟩ := Outcome.bind_eq_ok_iff.mp h
  by_contra hnone
  have hsaid {path : Path} {said : List (Value × Value)} (hpath : path ∈ sources s.host root)
      (hread : fileSays s.files s.host.here path = .ok said) : ∀ e ∈ said, e.1.isText = true := by
    intro e he
    rw [← Bool.not_eq_false]
    exact fun hk => hnone ⟨path, hpath, said, hread, e, he, hk⟩
  -- texts stay texts when they override others
  have hput {entries base es : List (Value × Value)} (he : ∀ e ∈ entries, e.1.isText = true)
      (hb : ∀ e ∈ base, e.1.isText = true)
      (h : (Entries.overriding entries base).mapError Fault.beyond = .ok es) : ∀ e ∈ es, e.1.isText = true :=
    Entries.keys_putAll (P := fun k => k.isText = true) hb he (Outcome.mapError_eq_ok_iff.mp h)
  have htexts := hput (hsaid (List.mem_cons_of_mem _ List.mem_cons_self) hprojects)
    (hsaid List.mem_cons_self husers) hfiles
  obtain ⟨upper, hupper, hall⟩ := Outcome.bind_eq_ok_iff.mp (Outcome.mapError_eq_ok_iff.mp h)
  have hupper := hput (isText_ofJsonMembers given) (isText_of_fromVariables henvironment)
    (Outcome.mapError_eq_ok_iff.mpr hupper)
  have hes := hput hupper htexts (Outcome.mapError_eq_ok_iff.mpr hall) e he
  rw [hname] at hes
  cases hes

/-- **Loading settings changes nothing, and gives settings that pass their check, or a problem of the settings
with its cause, or a fault that is no problem**: settings files and variables that ask for values that cannot be
made, names that are no texts, mappings that are nested too deep, destinations in unknown home directories, and values
that are too long to be shown. -/
theorem load_ends (root : Path) (given : List (Text × Json)) (s : Session) :
    ∃ r, (load root given).run s = (r, s) ∧ Ending s root given r := by
  refine ⟨_, run_load root given s, ?_⟩
  rw [loadFrom_eq]
  cases hcombined : combined s.host s.files root given with
  | error f => exact ending_of_combined hcombined
  | ok es =>
    change Ending s root given (ofMerged s.host.homes es)
    unfold ofMerged
    split
    · rename_i hany
      obtain ⟨e, he, hname⟩ := List.any_eq_true.mp hany
      obtain ⟨path, hpath, said, hsaid, e, he, hname⟩ :=
        exists_name_of_combined hcombined he (Bool.not_eq_true' _ |>.mp hname)
      exact .unreported (.name hpath hsaid he hname) nofun
    · have hexplains := @explains_checkAll s.host.homes es
      cases hcheck : checkAll s.host.homes es with
      | good settings =>
        change Ending s root given (reread s.host.homes settings)
        rw [reread_of_check (check_of_checkAll hcheck)]
        exact .loaded hcombined hcheck
      | bad issues =>
        rw [hcheck] at hexplains
        cases issues with
        | nil => exact absurd rfl hexplains
        | cons i others =>
          change Ending s root given (.error i.fault)
          unfold Issue.fault
          cases hshown : i.shown with
          | some shown => exact .reported (.invalid hcombined hcheck hshown)
          | none => exact .unreported (.digits hcombined hcheck hshown) nofun
      | broken f =>
        rw [hcheck] at hexplains
        obtain ⟨t, hset, hhome⟩ := hexplains
        obtain rfl := Path.homeless_of_expanded hhome
        exact .unreported (.homeless hcombined hset hhome) nofun

end

/-! ## faults that are not reported -/

/-- are there settings, or is a problem of the settings reported? -/
def isReported : Except Fault Settings → Bool
  | .ok _ => true
  | .error (.problem p) => p.family = .settings
  | .error _ => false

/-- a session in which a variable is no JSON text -/
def misled : Session := { host := { environment := [("SUPATYPES__GENERATOR", "\x7b")] } }

/-- a session in which a destination of log messages is in the home directory of someone unknown -/
def estranged : Session := withSettings "logging:\n  outputs:\n    - destination: ~nobody/log\n" ""

/-- a variable that is no JSON text, a name that is no text, a date that does not exist and an unknown home
directory end loading without settings and without a report -/
theorem load_not_reported : isReported ((load ⟨1, []⟩ []).run misled).1 = false
    ∧ isReported ((load ⟨1, []⟩ []).run (withSettings "1: 2\n" "")).1 = false
    ∧ isReported ((load ⟨1, []⟩ []).run (withSettings "a: 2020-13-01\n" "")).1 = false
    ∧ isReported ((load ⟨1, []⟩ []).run estranged).1 = false := by
  decide +kernel

end Settings

end DatabaseTypes
