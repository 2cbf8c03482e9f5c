import DatabaseTypes.CommandLine.Program
import DatabaseTypes.Proofs.Answer
import DatabaseTypes.Proofs.Path
import DatabaseTypes.Proofs.Json.Place

/-!
# A run that is asked for in two ways

One run can be asked for by the arguments of the command and by the parameters of a request.

* `Asked`                       a run that is asked for
* `CommandLine.argumentsFor`    the arguments that ask for it
* `CommandLine.run_start`       what the program does with them
* `Service.AsksFor`             the parameters that ask for it
* `Service.AsksFor.directory`, `Service.AsksFor.overrides`   what they are read as
-/

namespace DatabaseTypes

/-- a run that is asked for: the text of its output, the choices, and the directory of the project -/
structure Asked where
  output : Text
  given : output ≠ []
  docs : Option Bool := none
  format : Option Bool := none
  project : Text

/-- the settings that are given for a run, with the text of its output -/
def Asked.settings (a : Asked) (output : Text) : List (Text × Json) :=
  Service.groupOf "generator"
      ([(("output" : Text), Json.text output)] ++ Service.flagMember "documentation" a.docs)
    ++ Service.groupOf "formatting" (Service.flagMember "enabled" a.format)

namespace CommandLine

/-! ## arguments -/

/-- can a text not be taken for an option? -/
def IsArgument (t : Text) : Prop := ∀ c cs, t ≠ '-' :: c :: cs

theorem parsedFrom_argument {α : Type} {names : List (Named α)} {t : Text} (h : IsArgument t) (fuel : Nat)
    (g : Given α) (args : List Text) : parsedFrom names true (fuel + 1) g (t :: args)
      = parsedFrom names true fuel { g with arguments := g.arguments ++ [t] } args := by
  rw [parsedFrom]
  · rfl
  · exact h _ _
  · exact fun _ => h _ _
  · exact h

theorem parsedFrom_output (fuel : Nat) (g : Given Generate.Choice) (t : Text) (args : List Text) :
    parsedFrom Generate.names true (fuel + 1) g ("-o" :: t :: args)
      = parsedFrom Generate.names true fuel { g with options := g.options ++ [(.output, some t)] } args := rfl

theorem parsedFrom_project (fuel : Nat) (g : Given Generate.Choice) (t : Text) (args : List Text) :
    parsedFrom Generate.names true (fuel + 1) g ("--project" :: t :: args)
      = parsedFrom Generate.names true fuel { g with options := g.options ++ [(.project, some t)] } args := rfl

/-- the arguments for a choice -/
def choiceArguments (yes no : Text) : Option Bool → List Text
  | none => []
  | some true => [yes]
  | some false => [no]

def choiceOptions (yes no : Generate.Choice) : Option Bool → List (Generate.Choice × Option Text)
  | none => []
  | some true => [(yes, none)]
  | some false => [(no, none)]

theorem parsedFrom_docs (docs : Option Bool) (fuel : Nat) (g : Given Generate.Choice) (args : List Text) :
    parsedFrom Generate.names true (fuel + (choiceArguments "--docs" "--no-docs" docs).length) g
        (choiceArguments "--docs" "--no-docs" docs ++ args)
      = parsedFrom Generate.names true fuel
        { g with options := g.options ++ choiceOptions .docs .noDocs docs } args := by
  rcases docs with _ | _ | _
  · rw [choiceOptions, List.append_nil]
    rfl
  · rfl
  · rfl

theorem parsedFrom_format (format : Option Bool) (fuel : Nat) (g : Given Generate.Choice) (args : List Text) :
    parsedFrom Generate.names true (fuel + (choiceArguments "--format" "--no-format" format).length) g
        (choiceArguments "--format" "--no-format" format ++ args)
      = parsedFrom Generate.names true fuel
        { g with options := g.options ++ choiceOptions .format .noFormat format } args := by
  rcases format with _ | _ | _
  · rw [choiceOptions, List.append_nil]
    rfl
  · rfl
  · rfl

/-- the arguments that ask for it, with the file of the model -/
def argumentsFor (a : Asked) (file : Text) : List Text :=
  file :: "-o" :: a.output :: (choiceArguments "--docs" "--no-docs" a.docs
    ++ (choiceArguments "--format" "--no-format" a.format ++ [("--project" : Text), a.project]))

/-- the options among them -/
def optionsFor (a : Asked) (file : Text) : Given Generate.Choice where
  options := [(.output, some a.output)] ++ choiceOptions .docs .noDocs a.docs
    ++ choiceOptions .format .noFormat a.format ++ [(.project, some a.project)]
  arguments := [file]

theorem parsed_arguments (a : Asked) {file : Text} (h : IsArgument file) :
    parsed Generate.names true (argumentsFor a file) = .ok (optionsFor a file) := by
  -- reading takes one step for each argument, or for each option with its value
  have hlength : (argumentsFor a file).length + 1
      = 3 + 1 + (choiceArguments "--format" "--no-format" a.format).length
        + (choiceArguments "--docs" "--no-docs" a.docs).length + 1 + 1 := by
    simp only [argumentsFor, List.length_cons, List.length_append, List.length_nil]
    omega
  rw [parsed, hlength, argumentsFor, parsedFrom_argument h, parsedFrom_output, parsedFrom_docs,
    parsedFrom_format, parsedFrom_project]
  rfl

theorem run_checkPath_eq (parameter : Text) (kind : Kind) (mustExist : Bool) (t : Text) (s : Session) :
    (checkPath parameter kind mustExist t).run.run s
      = ((liftM (Action.lift (entryAt? s t)) : Checking (Option Entry)) >>= fun e =>
        match pathMisuse? parameter kind mustExist t e with
        | some m => throw m
        | none => pure (Path.ofText t)).run.run s :=
  rfl

theorem run_checkPath {parameter t : Text} {kind : Kind} {mustExist : Bool} {s : Session} {e : Option Entry}
    (he : entryAt? s t = .ok e) (hm : pathMisuse? parameter kind mustExist t e = none) :
    (checkPath parameter kind mustExist t).run.run s = (.ok (.ok (Path.ofText t)), s) := by
  have hlift : (liftM (Action.lift (entryAt? s t)) : Checking (Option Entry)) = pure e := by
    rw [he]
    rfl
  rw [run_checkPath_eq, hlift, pure_bind, hm]
  rfl

theorem run_check_bind {α β : Type} {c : Checking α} {f : α → Checking β} {x : α} {s s' : Session}
    (h : c.run.run s = (.ok (.ok x), s')) : (c >>= f).run.run s = (f x).run.run s' := by
  have hbind : (c >>= f).run = c.run >>= fun r => match r with
      | .ok x => (f x).run
      | .error m => pure (.error m) :=
    (ExceptT.run_bind c f).trans (bind_congr fun r => by cases r <;> rfl)
  rw [hbind, Action.run_bind, h]

/-- the command accepts what is asked for: the file of the model is one, the output is no directory, and the
project is one -/
structure IsAccepted (a : Asked) (file : Text) (bytes : Bytes) (s : Session) : Prop where
  argument : IsArgument file
  model : entryAt? s file = .ok (some (.file bytes))
  output : ∃ e, entryAt? s a.output = .ok e ∧ e ≠ some .directory
  project : entryAt? s a.project = .ok (some .directory)

/-- what the command is told -/
def told (a : Asked) (file : Text) : Generate.Arguments where
  model := Path.ofText file
  output := some (Path.ofText a.output)
  docs := a.docs
  format := a.format
  project := some (Path.ofText a.project)

section
open Generate
variable {a : Asked} {file : Text} {bytes : Bytes} {s : Session}

theorem run_arguments (h : IsAccepted a file bytes s) :
    (arguments (optionsFor a file)).run.run s = (.ok (.ok (told a file)), s) := by
  obtain ⟨e, he, hdirectory⟩ := h.output
  have hm : pathMisuse? "'--output' / '-o'" .file false a.output e = none := by
    match e, hdirectory with
    | none, _ => rfl
    | some (.file _), _ => rfl
    | some .directory, hd => exact absurd rfl hd
  have hvalues : (optionsFor a file).value? .output = some a.output
      ∧ (optionsFor a file).value? .project = some a.project ∧ projectFirst (optionsFor a file) = false := by
    obtain ⟨o, _, docs, format, r⟩ := a
    rcases docs with _ | _ | _ <;> rcases format with _ | _ | _ <;> exact ⟨rfl, rfl, rfl⟩
  have hchoices : choice (optionsFor a file) .docs .noDocs = a.docs
      ∧ choice (optionsFor a file) .format .noFormat = a.format := by
    obtain ⟨o, _, docs, format, r⟩ := a
    rcases docs with _ | _ | _ <;> rcases format with _ | _ | _ <;> exact ⟨rfl, rfl⟩
  have houtput : (outputPath (optionsFor a file)).run.run s
      = (.ok (.ok (some (Path.ofText a.output))), s) := by
    unfold outputPath
    rw [hvalues.1]
    exact run_check_bind (run_checkPath he hm)
  have hproject : (projectPath (optionsFor a file)).run.run s
      = (.ok (.ok (some (Path.ofText a.project))), s) := by
    unfold projectPath
    rw [hvalues.2.1]
    exact run_check_bind (run_checkPath h.project rfl)
  have hpaths : (optionPaths (optionsFor a file)).run.run s
      = (.ok (.ok (some (Path.ofText a.output), some (Path.ofText a.project))), s) := by
    unfold optionPaths
    rw [hvalues.2.2]
    exact (run_check_bind houtput).trans (run_check_bind hproject)
  unfold arguments
  rw [run_check_bind hpaths, hchoices.1, hchoices.2]
  exact run_check_bind (run_checkPath h.model rfl)

/-- a session in which messages go to the terminal -/
def onTerminal (s : Session) : Session :=
  { s with log := { level := .warning, routes := [{ sink := .errors, level := .warning }] } }

theorem run_start (h : IsAccepted a file bytes s) :
    (start ("generate" :: argumentsFor a file)).run s
      = (Generate.perform (told a file) false >>= fun n => pure (.finished n)).run (onTerminal s) := by
  have hparsed : parsed programNames false ("generate" :: argumentsFor a file)
      = .ok { arguments := "generate" :: argumentsFor a file } := rfl
  have hearly : early? ("generate" :: argumentsFor a file) = none := by
    rw [early?, hparsed]
    rfl
  have hstart : start ("generate" :: argumentsFor a file)
      = Action.openLog (.simple .warning) >>= fun _ => performGenerate (argumentsFor a file) false := by
    rw [start, hearly, hparsed]
    rfl
  have haccepted : IsAccepted a file bytes (onTerminal s) := ⟨h.argument, h.model, h.output, h.project⟩
  have hhelp : ((optionsFor a file).options.any (·.1 == .help)) = false := by
    obtain ⟨o, _, docs, format, r⟩ := a
    rcases docs with _ | _ | _ <;> rcases format with _ | _ | _ <;> rfl
  rw [hstart]
  show (performGenerate (argumentsFor a file) false).run (onTerminal s) = _
  unfold performGenerate
  rw [parsed_arguments a h.argument]
  dsimp only
  rw [hhelp, if_neg Bool.false_ne_true, Action.run_bind, run_arguments haccepted]

end

end CommandLine

/-! ## requests -/

namespace Service

/-- parameters ask for a run with a document -/
structure AsksFor (params : Json) (a : Asked) (document : Json) : Prop where
  schema : ∃ t, params.get? "schemaPath" = some (.text t)
    ∧ Path.ofText t = (Path.ofText "schema.prisma").under (Path.ofText a.project)
  document : params.get? "dmmf" = some document
  output : Json.at? ["generator", "output", "value"] params = some (.text a.output)
  config : ∀ v, Json.at? ["generator", "config"] params = some v → v.isObject = true
  docs : (Json.at? ["generator", "config", "documentation"] params).bind Flag.ofJson = a.docs
  format : (Json.at? ["generator", "config", "format"] params).bind Flag.ofJson = a.format

theorem isObject_of_get? {v w : Json} {key : Text} (h : v.get? key = some w) : v.isObject = true := by
  cases v with
  | object ms => rfl
  | _ => cases h

theorem lookup_eq {v : Json} (h : v.isObject = true) (key : Text) : v.lookup key = .ok (v.get? key) := by
  cases v with
  | object ms => rfl
  | _ => cases h

theorem sectionAt_eq {v w : Json} {key : Text} (h : v.get? key = some w) (hw : w.isObject = true) :
    sectionAt key v = .ok w := by
  rw [sectionAt, lookup_eq (isObject_of_get? h), h]
  match w, hw with
  | .object [], _ => rfl
  | .object (m :: ms), _ => rfl

theorem sectionAt_none {v : Json} {key : Text} (h : v.get? key = none) (hv : v.isObject = true) :
    sectionAt key v = .ok (.object []) := by
  rw [sectionAt, lookup_eq hv, h]
  rfl

theorem truthy?_text {t : Text} (h : t ≠ []) : (Json.text t).truthy? = some (.text t) := by
  cases t with
  | nil => exact absurd rfl h
  | cons c t => rfl

section
variable {params document : Json} {a : Asked} (h : AsksFor params a document)
include h

theorem AsksFor.directory (root : Option Path) :
    Service.directory params root = .ok (some (Path.ofText a.project)) := by
  obtain ⟨t, ht, hpath⟩ := h.schema
  have hne : t ≠ [] := by
    rintro rfl
    have hparts := congrArg Path.parts hpath
    rw [Path.under, if_neg (by decide)] at hparts
    exact List.cons_ne_nil _ _ (List.append_eq_nil_iff.mp hparts.symm).2
  have hparent : (Path.ofText t).parent = Path.ofText a.project := by
    rw [hpath, Path.under, if_neg (by decide), Path.parent]
    show Path.mk _ ((Path.ofText a.project).parts ++ [("schema.prisma" : Text)]).dropLast = _
    rw [List.dropLast_concat]
  rw [Service.directory, lookup_eq (isObject_of_get? ht), ht]
  dsimp only [bind, Except.bind, Option.bind]
  rw [truthy?_text hne]
  dsimp only
  rw [hparent]
  rfl

theorem AsksFor.overrides : Service.overrides params = .ok (a.settings a.output) := by
  have houtput := h.output
  obtain ⟨generator, hgenerator, hout⟩ := Option.bind_eq_some_iff.mp houtput
  obtain ⟨output, hat, hvalue⟩ := Option.bind_eq_some_iff.mp hout
  have hvalue : output.get? "value" = some (.text a.output) := by
    obtain ⟨v, hv, e⟩ := Option.bind_eq_some_iff.mp hvalue
    rw [hv]
    exact e
  have hconfig : ∃ options, sectionAt "config" generator = .ok options ∧ options.isObject = true
      ∧ ∀ key, Json.at? ["generator", "config", key] params = options.get? key := by
    have hat? (keys : List Text) : Json.at? ("generator" :: "config" :: keys) params
        = (generator.get? "config").bind (Json.at? keys) := by
      rw [Json.at?, hgenerator]
      rfl
    cases hc : generator.get? "config" with
    | none =>
      refine ⟨.object [], sectionAt_none hc (isObject_of_get? hat), rfl, fun key => ?_⟩
      rw [hat?, hc]
      rfl
    | some options =>
      have hobject : options.isObject = true := h.config options (by rw [hat?, hc]; rfl)
      refine ⟨options, sectionAt_eq hc hobject, hobject, fun key => ?_⟩
      rw [hat?, hc]
      show (options.get? key).bind some = _
      rw [Option.bind_fun_some]
  obtain ⟨options, hoptions, hobject, hkeys⟩ := hconfig
  have hdocs := h.docs
  have hformat := h.format
  rw [hkeys] at hdocs hformat
  rw [Service.overrides, sectionAt_eq hgenerator (isObject_of_get? hat)]
  dsimp only [bind, Except.bind]
  rw [hoptions]
  dsimp only
  rw [sectionAt_eq hat (isObject_of_get? hvalue)]
  dsimp only
  rw [lookup_eq (isObject_of_get? hvalue), lookup_eq hobject]
  dsimp only
  rw [lookup_eq hobject]
  dsimp only
  rw [hvalue, hdocs, hformat]
  dsimp only [Option.bind]
  rw [truthy?_text a.given]
  rfl

end
end Service
end DatabaseTypes
