import DatabaseTypes.Schema.Reading

/-!
# Notices about a model

A field of a kind that is not known is noticed when it is read.  Reading ends at the first fault, and
what is noticed before it stays noticed.

* `Notice`              the name of a field and its kind
* `Field.notice?`       what is noticed about a field
* `Notice.ofDatamodel`  everything noticed in a model, in the order of reading
-/

namespace DatabaseTypes

/-- a field of a kind that is not known -/
structure Notice where
  field : Json
  kind : Json

/-- what is noticed about a field -/
def Field.notice? (f : Field) : Option Notice :=
  match f.shape with
  | .unsupported kind => some ⟨f.name, kind⟩
  | _ => none

namespace Notice

/-- what is noticed among elements that are read in turn, and whether all of them can be read -/
def among (read : Json → List Notice × Bool) : List Json → List Notice × Bool
  | [] => ([], true)
  | v :: vs =>
    match read v with
    | (ns, false) => (ns, false)
    | (ns, true) =>
      let (more, good) := among read vs
      (ns ++ more, good)

/-- what is noticed in the elements of a member, and whether they can be read -/
def inElements (key : Text) (read : Json → List Notice × Bool) (v : Json) : List Notice × Bool :=
  match v.elementsAt key with
  | .ok elements => among read elements
  | .error _ => ([], false)

/-- what is noticed about a field -/
def ofField (v : Json) : List Notice × Bool :=
  match Field.ofJson v with
  | .ok f => (f.notice?.toList, true)
  | .error _ => ([], false)

/-- what is noticed in a table -/
def ofTable (v : Json) : List Notice × Bool :=
  match (v.demand "name").bind Json.asName with
  | .error _ => ([], false)
  | .ok _ =>
    let (ns, good) := inElements "fields" ofField v
    (ns, good && (Table.ofJson v).toBool)

/-- what is noticed about a member of a composite type, which is a field if it has a type -/
def ofMember (v : Json) : List Notice × Bool :=
  match v.lookup "type" with
  | .error _ => ([], false)
  | .ok type =>
    let (ns, good) := if (type.bind Json.truthy?).isSome then ofField v else ([], true)
    (ns, good && (Member.ofJson v).toBool)

/-- what is noticed in a composite type -/
def ofComposite (v : Json) : List Notice × Bool :=
  let (ns, good) := inElements "fields" ofMember v
  (ns, good && (Composite.ofJson v).toBool)

/-- what is noticed in an enum, which is nothing -/
def ofEnum (v : Json) : List Notice × Bool := ([], (Enum.ofJson v).toBool)

/-- everything that is noticed in a model until it turns out that it cannot be read -/
def ofDatamodel (v : Json) : List Notice :=
  let (tables, goodTables) := inElements "models" ofTable v
  let (_, goodEnums) := inElements "enums" ofEnum v
  let (composites, _) := inElements "types" ofComposite v
  tables ++ if goodTables && goodEnums then composites else []

end Notice
end DatabaseTypes
