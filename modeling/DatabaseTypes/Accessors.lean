import DatabaseTypes.Text.Basic

/-!
# Accessor types

The declarations that surround the type of the database.  They are the same for every model.

* `Accessors.jsonAlias`    the type of JSON values
* `Accessors.text`         the types that pick a table, an enum or a composite type by its name
-/

namespace DatabaseTypes.Accessors

/-- the type of JSON values -/
def jsonAlias : Text :=
  "export type Json = string | number | boolean | null"
    ++ " | \x7b [key: string]: Json | undefined \x7d | Json[]"

/-- the schema that names are looked up in unless another one is given -/
def publicSchema : List Text :=
  ["type PublicSchema = Database[Extract<keyof Database, \"public\">]"]

/-- a row of a table or a view -/
def tables : List Text :=
  ["export type Tables<",
   "  PublicTableNameOrOptions extends",
   "    | keyof (PublicSchema[\"Tables\"] & PublicSchema[\"Views\"])",
   "    | \x7b schema: keyof Database \x7d,",
   "  TableName extends PublicTableNameOrOptions extends \x7b schema: keyof Database \x7d",
   "    ? keyof (Database[PublicTableNameOrOptions[\"schema\"]][\"Tables\"] &",
   "        Database[PublicTableNameOrOptions[\"schema\"]][\"Views\"])",
   "    : never = never",
   "> = PublicTableNameOrOptions extends \x7b schema: keyof Database \x7d",
   "  ? (Database[PublicTableNameOrOptions[\"schema\"]][\"Tables\"] &",
   "      Database[PublicTableNameOrOptions[\"schema\"]][\"Views\"])[TableName] extends \x7b",
   "      Row: infer R",
   "    \x7d",
   "    ? R",
   "    : never",
   "  : PublicTableNameOrOptions extends keyof (PublicSchema[\"Tables\"] & PublicSchema[\"Views\"])",
   "    ? (PublicSchema[\"Tables\"] & PublicSchema[\"Views\"])[PublicTableNameOrOptions] extends \x7b",
   "        Row: infer R",
   "      \x7d",
   "      ? R",
   "      : never",
   "    : never"]

/-- what may be inserted into a table -/
def tablesInsert : List Text :=
  ["export type TablesInsert<",
   "  PublicTableNameOrOptions extends",
   "    | keyof PublicSchema[\"Tables\"]",
   "    | \x7b schema: keyof Database \x7d,",
   "  TableName extends PublicTableNameOrOptions extends \x7b schema: keyof Database \x7d",
   "    ? keyof Database[PublicTableNameOrOptions[\"schema\"]][\"Tables\"]",
   "    : never = never",
   "> = PublicTableNameOrOptions extends \x7b schema: keyof Database \x7d",
   "  ? Database[PublicTableNameOrOptions[\"schema\"]][\"Tables\"][TableName] extends \x7b",
   "      Insert: infer I",
   "    \x7d",
   "    ? I",
   "    : never",
   "  : PublicTableNameOrOptions extends keyof PublicSchema[\"Tables\"]",
   "  ? PublicSchema[\"Tables\"][PublicTableNameOrOptions] extends \x7b",
   "      Insert: infer I",
   "    \x7d",
   "    ? I",
   "    : never",
   "  : never"]

/-- what may be updated in a table -/
def tablesUpdate : List Text :=
  ["export type TablesUpdate<",
   "  PublicTableNameOrOptions extends",
   "    | keyof PublicSchema[\"Tables\"]",
   "    | \x7b schema: keyof Database \x7d,",
   "  TableName extends PublicTableNameOrOptions extends \x7b schema: keyof Database \x7d",
   "    ? keyof Database[PublicTableNameOrOptions[\"schema\"]][\"Tables\"]",
   "    : never = never",
   "> = PublicTableNameOrOptions extends \x7b schema: keyof Database \x7d",
   "  ? Database[PublicTableNameOrOptions[\"schema\"]][\"Tables\"][TableName] extends \x7b",
   "      Update: infer U",
   "    \x7d",
   "    ? U",
   "    : never",
   "  : PublicTableNameOrOptions extends keyof PublicSchema[\"Tables\"]",
   "  ? PublicSchema[\"Tables\"][PublicTableNameOrOptions] extends \x7b",
   "      Update: infer U",
   "    \x7d",
   "    ? U",
   "    : never",
   "  : never"]

/-- an enum -/
def enums : List Text :=
  ["export type Enums<",
   "  PublicEnumNameOrOptions extends",
   "    | keyof PublicSchema[\"Enums\"]",
   "    | \x7b schema: keyof Database \x7d,",
   "  EnumName extends PublicEnumNameOrOptions extends \x7b schema: keyof Database \x7d",
   "    ? keyof Database[PublicEnumNameOrOptions[\"schema\"]][\"Enums\"]",
   "    : never = never",
   "> = PublicEnumNameOrOptions extends \x7b schema: keyof Database \x7d",
   "  ? Database[PublicEnumNameOrOptions[\"schema\"]][\"Enums\"][EnumName]",
   "  : PublicEnumNameOrOptions extends keyof PublicSchema[\"Enums\"]",
   "  ? PublicSchema[\"Enums\"][PublicEnumNameOrOptions]",
   "  : never"]

/-- a composite type -/
def compositeTypes : List Text :=
  ["export type CompositeTypes<",
   "  PublicCompositeTypeNameOrOptions extends",
   "    | keyof PublicSchema['CompositeTypes']",
   "    | \x7b schema: keyof Database \x7d,",
   "  CompositeTypeName extends PublicCompositeTypeNameOrOptions extends \x7b schema: keyof Database \x7d",
   "    ? keyof Database[PublicCompositeTypeNameOrOptions['schema']]['CompositeTypes']",
   "    : never = never",
   "> = PublicCompositeTypeNameOrOptions extends \x7b schema: keyof Database \x7d",
   "  ? Database[PublicCompositeTypeNameOrOptions['schema']]['CompositeTypes'][CompositeTypeName]",
   "  : PublicCompositeTypeNameOrOptions extends keyof PublicSchema['CompositeTypes']",
   "    ? PublicSchema['CompositeTypes'][PublicCompositeTypeNameOrOptions]",
   "    : never"]

/-- the declarations, with an empty line between two of them and a line end after the last -/
def text : Text :=
  Text.joined "\n\n" ([publicSchema, tables, tablesInsert, tablesUpdate, enums, compositeTypes].map
    (Text.joined "\n")) ++ "\n"

end DatabaseTypes.Accessors
