import DatabaseTypes.Run
import DatabaseTypes.Settings.Load
import DatabaseTypes.Text.Lines
import DatabaseTypes.Text.Case
import DatabaseTypes.Text.Printable

/-!
# The generator as a service

Requests come one on a line as JSON objects, and each is answered by a line.  A request asks for the
manifest of the generator, or for a run.

* `Flag.ofJson`         the truth value that an option of a generator block stands for
* `Service.overrides`   the settings of a generator block
* `Service.generate`    a run for a request
* `Service.handle`      the answer to a request
* `Service.serve`       the answers to lines of text
-/

namespace DatabaseTypes.Flag

/-- the words for true -/
def yes : List Text := ["true", "1", "yes", "on"]

/-- the words for false -/
def no : List Text := ["false", "0", "no", "off"]

/-- the truth value of a word in any case, with white space around it -/
def ofText (t : Text) : Option Bool :=
  let word := t.trim.lowered
  if yes.contains word then some true else if no.contains word then some false else none

/-- the truth value of an option; nothing if it is absent or not recognised -/
def ofJson : Json → Option Bool
  | .bool b => some b
  | .null => none
  | v => ofText v.display

end DatabaseTypes.Flag

namespace DatabaseTypes.Service

/-! ## requests -/

/-- the member of a value that counts as true, or an empty object -/
def sectionAt (key : Text) (v : Json) : Except Fault Json := do
  pure (((← v.lookup key).bind Json.truthy?).getD (.object []))

/-- a group of settings, unless it is empty -/
def groupOf (name : Text) (members : List (Text × Json)) : List (Text × Json) :=
  if members.isEmpty then [] else [(name, .object members)]

/-- a truth value as a setting, if there is one -/
def flagMember (name : Text) (flag : Option Bool) : List (Text × Json) :=
  (flag.map fun b => (name, Json.bool b)).toList

/-- the settings of the generator block in the parameters of a request -/
def overrides (params : Json) : Except Fault (List (Text × Json)) := do
  let generator ← sectionAt "generator" params
  let options ← sectionAt "config" generator
  let output ← (← sectionAt "output" generator).lookup "value"
  let documentation ← options.lookup "documentation"
  let formatting ← options.lookup "format"
  let flag (v : Option Json) : Option Bool := v.bind Flag.ofJson
  let members := ((output.bind Json.truthy?).map fun v => (("output" : Text), v)).toList
    ++ flagMember "documentation" (flag documentation)
  pure (groupOf "generator" members ++ groupOf "formatting" (flagMember "enabled" (flag formatting)))

/-- the directory of the schema of a request; without one it is the root of the project -/
def directory (params : Json) (root : Option Path) : Except Fault (Option Path) := do
  match (← params.lookup "schemaPath").bind Json.truthy? with
  | none => pure root
  | some (.text t) => pure (some (Path.ofText t).parent)
  | some v => throw (.notPath v.kind)

/-- the path and the name under which the generator offers itself -/
def manifest : Json :=
  let members : List (Text × Json) :=
    [("defaultOutput", .text "./database.ts"), ("prettyName", .text "Supabase Types")]
  .object [("manifest", .object members)]

/-- a run for a request -/
def generate (root : Option Path) (params : Json) : Action Unit := do
  let base ← Action.lift (directory params root)
  let given ← Action.lift (overrides params)
  let settings ← Settings.load (base.getD (← Action.host).directory) given
  Action.openLog settings.logging
  let document := (← Action.lift (params.lookup "dmmf")).getD .null
  let datamodel ← Action.liftProblem (Document.datamodel document)
  let _ ← Run.generate datamodel settings base

/-! ## answers -/

/-- the number of the answer to a method that there is not -/
def methodNotFound : Int := -32601

/-- the number of the answer to a request that fails -/
def serverError : Int := -32000

/-- the answer to a request with the identifier `id` -/
def response (id : Json) (outcome : Text × Json) : Json :=
  .object [("jsonrpc", .text "2.0"), ("id", id), outcome]

/-- an answer that says what is wrong -/
def failure (id : Json) (code : Int) (message : Text) (data : List (Text × Json)) : Json :=
  let members : List (Text × Json) := [("code", .int code), ("message", .text message)]
  response id ("error", .object (members ++ data))

/-- the answer that reports a problem -/
def problemResponse (id : Json) (p : Problem) : Json :=
  failure id serverError p.summary [("data", p.toJson)]

/-- the answer to a fault, which is logged -/
def faultResponse (id method : Json) : Fault → Action Json
  | .problem p => do
    Action.log .error "request_failed"
      [("method", method), ("error", .text p.name), ("message", .text p.message)]
    pure (problemResponse id p)
  | f => do
    Action.log .error "request_crashed" [("method", method), ("exc_info", .bool true)]
    pure (problemResponse id (.unexpected f.message [("method", method)]))

/-- what is done for a request: its result, or nothing if there is no such method -/
def perform (root : Option Path) (method params : Json) : Action (Option Json) := do
  match method with
  | .text name =>
    if name = "getManifest" then pure (some manifest)
    else if name = "generate" then
      generate root params
      pure (some .null)
    else pure none
  | _ => pure none

/-- the answer to a request, if there is one: a success without an identifier is not answered -/
def handle (root : Option Path) (request : List (Text × Json)) : Action (Option Json) := do
  let at? (key : Text) : Json := (request.lookup key).getD .null
  let id := at? "id"
  let method := at? "method"
  let params := ((at? "params").truthy?).getD (.object [])
  Action.log .debug "request_received" [("method", method), ("id", id)]
  match ← (perform root method params).outcome with
  | .error f => pure (some (← faultResponse id method f))
  | .ok none => pure (some (failure id methodNotFound ("Unknown method: " ++ method.display) []))
  | .ok (some result) =>
    if id.isNull then pure none else pure (some (response id ("result", result)))

/-! ## lines -/

/-- the answer to a line: none to a blank line, nor to one that is no JSON object -/
def answerLine (root : Option Path) (line : Text) : Action (Option Json) := do
  if line.allBlank then pure none
  else match Json.ofText line with
    | .error (.mistake m) =>
      Action.log .warning "request_unparseable" [("error", .text m.message)]
      pure none
    | .error (.beyond l) => throw (.beyond l)
    | .ok (.object request) => handle root request
    | .ok v =>
      Action.log .warning "request_not_object" [("kind", .text v.kind.word)]
      pure none

/-- an answer as a line -/
def responseLine (v : Json) : Text := v.written .wire ++ ['\n']

/-- answer lines in turn, giving each answer to `reply` -/
def serveLines (root : Option Path) (reply : Text → Action Unit) : List Text → Action Unit
  | [] => pure ()
  | line :: lines => do
    match ← answerLine root line with
    | none => pure ()
    | some v => reply (responseLine v)
    serveLines root reply lines

/-- lines may be answered as they come: no answer depends on the lines after it -/
theorem serveLines_append (root : Option Path) (reply : Text → Action Unit) (l m : List Text) :
    serveLines root reply (l ++ m) = (do serveLines root reply l; serveLines root reply m) := by
  induction l with
  | nil => simp [serveLines]
  | cons x l ih =>
    simp only [List.cons_append, serveLines, ih, bind_assoc]
    refine bind_congr fun r => ?_
    cases r <;> simp

/-- answer the lines of a text -/
def serve (root : Option Path) (reply : Text → Action Unit) (input : Text) : Action Unit :=
  serveLines root reply input.physicalLines

/-- write an answer among the messages -/
def replyOnErrors (t : Text) : Action Unit :=
  modify fun s => s.complained t

/-- the service by itself: it logs warnings, and answers among the messages; a carriage return ends
no line -/
def run (input : Text) : Action Unit := do
  Action.openLog (.simple .warning)
  serve none replyOnErrors input

end DatabaseTypes.Service
