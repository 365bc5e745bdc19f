/-! Make rules: an object file and what it is rebuilt from. -/

namespace IncludeRules

/-- Rules read from a compiler may have no prerequisites at all, hence no source. -/
structure Rule where
  object : String
  source : Option String
  headers : List String
  deriving DecidableEq

namespace Rule

/-- The source, then the headers. -/
def prerequisites (r : Rule) : List String :=
  r.source.toList ++ r.headers

/-- The first prerequisite of a rule is its source. -/
def ofPrerequisites (object : String) : List String → Rule
  | [] => ⟨object, none, []⟩
  | source :: headers => ⟨object, some source, headers⟩

/-- A second name for an object that is built twice from one source. -/
structure Synonym where
  object : String
  copy : String
  deriving DecidableEq

/-- Follows every rule for the synonym's object by a copy under its second name. -/
def insertSynonym (rules : List Rule) (s : Synonym) : List Rule :=
  rules.flatMap fun r => if r.object = s.object then [r, { r with object := s.copy }] else [r]

/-- Later synonyms see the copies that earlier ones made. -/
def insertSynonyms (synonyms : List Synonym) (rules : List Rule) : List Rule :=
  synonyms.foldl insertSynonym rules

end Rule

end IncludeRules
