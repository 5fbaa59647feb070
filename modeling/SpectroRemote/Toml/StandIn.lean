import SpectroRemote.Toml.Value

/-!
# Tables that stand for a value

Below the top of a configuration file a table may name the value that it stands for, and its other
entries then count for nothing. A table may also tell which source a value has, but a configuration
file cannot know that, so it is refused as a whole.
-/

namespace SpectroRemote.Toml

/-- The key of the value that a table stands for. -/
def standInKey : String := "___figment_value_value"

/-- The key that tells which source a value has. -/
def sourceKey : String := "___figment_value_id"

def standIn? (form : TableForm) (entries : List (String × Value)) : Option Value :=
  if entries.any fun e => e.1 = sourceKey then none
  else match entries.lookup standInKey with
    | some v => some v
    | none => some (.table form entries)

namespace Value

mutual

/-- A value with what its tables stand for in their place. -/
def resolve? : Value → Option Value
  | .array items => (resolveItems? items).map .array
  | .table form entries => (resolveEntries? entries).bind (standIn? form)
  | .tables earlier current => do
    let items ← resolveItems? earlier
    let last ← (resolveEntries? current).bind (standIn? .header)
    return .array (items ++ [last])
  | v => some v

def resolveItems? : List Value → Option (List Value)
  | [] => some []
  | v :: items => do return (← resolve? v) :: (← resolveItems? items)

def resolveEntries? : List (String × Value) → Option (List (String × Value))
  | [] => some []
  | (key, v) :: entries => do return (key, ← resolve? v) :: (← resolveEntries? entries)

end

end Value

end SpectroRemote.Toml
