import Lindenmayer.Turtle.Operation

/-!
# Action names

A vocabulary says which operation an action name stands for. The standard one
holds the names used in grammar files and may be extended with further names.
-/

namespace Lindenmayer

/-- Action names with their operations; an earlier entry hides later ones of the same name. -/
structure Vocabulary where
  entries : List (String × Operation)
deriving DecidableEq, Repr

namespace Vocabulary

def empty : Vocabulary := ⟨[]⟩

/-- Binds a name to an operation, replacing an earlier binding of that name. -/
def register (vocabulary : Vocabulary) (name : String) (operation : Operation) : Vocabulary :=
  ⟨(name, operation) :: vocabulary.entries⟩

def resolve? (vocabulary : Vocabulary) (name : String) : Option Operation :=
  vocabulary.entries.lookup name

def standard : Vocabulary where
  entries := [
    ("draw", .draw),
    ("move", .move),
    ("turnL", .turnLeft),
    ("turnR", .turnRight),
    ("turn-left", .turnLeft),
    ("turn-right", .turnRight),
    ("push", .push),
    ("pop", .pop),
    ("stay", .stay)
  ]

instance : Inhabited Vocabulary := ⟨standard⟩

@[simp]
theorem resolve?_empty (name : String) : empty.resolve? name = none := rfl

/-- A registered name has its new meaning, and every other name keeps its own. -/
theorem resolve?_register (vocabulary : Vocabulary) (bound name : String)
    (operation : Operation) :
    (vocabulary.register bound operation).resolve? name =
      if name = bound then some operation else vocabulary.resolve? name := by
  by_cases same : name = bound
  · simp [register, resolve?, same]
  · have different : (name == bound) = false := by simpa using same
    simp [register, resolve?, List.lookup_cons, same, different]

end Vocabulary

end Lindenmayer
