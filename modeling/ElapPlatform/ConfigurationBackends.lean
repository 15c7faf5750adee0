import ElapPlatform.ConfigurationFileText
import ElapPlatform.PersistentStoreSucceedingCalls

/-!
# The two configuration classes

`KeyValueConfiguration` keeps its values in a map; `DatabaseConfiguration` keeps
them in a store, and its getters are statements.
-/

namespace ElapPlatform.Config

open Interaction Interaction.Program Storage

/-! ## The calls of `IConfiguration` -/

inductive Query where
  | has (key : Bytes)
  | getString (key defaultValue : Bytes)
  | getInt (key : Bytes) (defaultValue : ℤ)
  | getBool (key : Bytes) (defaultValue : Bool)
  deriving DecidableEq, Repr

def Query.Value : Query → Type
  | .has _ => Bool
  | .getString _ _ => Bytes
  | .getInt _ _ => ℤ
  | .getBool _ _ => Bool

def Query.key : Query → Bytes
  | .has key => key
  | .getString key _ => key
  | .getInt key _ => key
  | .getBool key _ => key

/-- What a getter makes of the text under its key. -/
def Query.answer : (query : Query) → Option Bytes → query.Value
  | .has _, text => text.isSome
  | .getString _ defaultValue, text => text.getD defaultValue
  | .getInt _ defaultValue, text =>
      match text with
      | some text => intOf text defaultValue
      | none => defaultValue
  | .getBool _ defaultValue, text =>
      match text with
      | some text => boolOf text defaultValue
      | none => defaultValue

/-! ## `KeyValueConfiguration` -/

structure KeyValueConfiguration where
  values : Bytes → Option Bytes

namespace KeyValueConfiguration

def store (values : Bytes → Option Bytes) (pair : Bytes × Bytes) : Bytes → Option Bytes :=
  Function.update values pair.1 (some pair.2)

def loadFromFile (configuration : KeyValueConfiguration) (path : String)
    (file : Option FileStream) : ObjectAnswer KeyValueConfiguration :=
  match parseFile store (fun _ => none) path file with
  | .error error => ⟨some error, configuration⟩
  | .ok parsedValues => ⟨none, ⟨parsedValues⟩⟩

def has (configuration : KeyValueConfiguration) (key : Bytes) : Bool :=
  (configuration.values key).isSome

def getString (configuration : KeyValueConfiguration) (key defaultValue : Bytes) : Bytes :=
  (configuration.values key).getD defaultValue

def getInt (configuration : KeyValueConfiguration) (key : Bytes) (defaultValue : ℤ) : ℤ :=
  match configuration.values key with
  | none => defaultValue
  | some text => intOf text defaultValue

def getBool (configuration : KeyValueConfiguration) (key : Bytes) (defaultValue : Bool) :
    Bool :=
  match configuration.values key with
  | none => defaultValue
  | some text => boolOf text defaultValue

def ask (configuration : KeyValueConfiguration) : (query : Query) → query.Value
  | .has key => configuration.has key
  | .getString key defaultValue => configuration.getString key defaultValue
  | .getInt key defaultValue => configuration.getInt key defaultValue
  | .getBool key defaultValue => configuration.getBool key defaultValue

theorem ask_eq (configuration : KeyValueConfiguration) (query : Query) :
    configuration.ask query = query.answer (configuration.values query.key) := by
  cases query with
  | has key => rfl
  | getString key defaultValue => rfl
  | getInt key defaultValue =>
      simp only [ask, getInt, Query.answer, Query.key]
      cases configuration.values key <;> rfl
  | getBool key defaultValue =>
      simp only [ask, getBool, Query.answer, Query.key]
      cases configuration.values key <;> rfl

end KeyValueConfiguration

/-! ## `DatabaseConfiguration` -/

structure DatabaseConfiguration where
  store : PersistentStore
  deriving DecidableEq, Repr

namespace DatabaseConfiguration

def loadFromFile (configuration : DatabaseConfiguration) (path : String)
    (file : Option FileStream) : DatabaseProgram (Answer Bool) :=
  match parseFile (fun values pair => values ++ [pair]) [] path file with
  | .error error => return ⟨false, some error⟩
  | .ok values => configuration.store.putAll values

def setString (configuration : DatabaseConfiguration) (key value : Bytes) :
    DatabaseProgram (Answer Bool) :=
  configuration.store.put key value

def has (configuration : DatabaseConfiguration) (key : Bytes) : DatabaseProgram Bool := do
  let result ← configuration.store.has key
  return result.value

def getString (configuration : DatabaseConfiguration) (key defaultValue : Bytes) :
    DatabaseProgram Bytes := do
  let result ← configuration.store.get key
  return result.value.getD defaultValue

def getInt (configuration : DatabaseConfiguration) (key : Bytes) (defaultValue : ℤ) :
    DatabaseProgram ℤ := do
  let result ← configuration.store.get key
  match result.value with
  | none => return defaultValue
  | some text => return intOf text defaultValue

def getBool (configuration : DatabaseConfiguration) (key : Bytes) (defaultValue : Bool) :
    DatabaseProgram Bool := do
  let result ← configuration.store.get key
  match result.value with
  | none => return defaultValue
  | some text => return boolOf text defaultValue

def ask (configuration : DatabaseConfiguration) :
    (query : Query) → DatabaseProgram query.Value
  | .has key => configuration.has key
  | .getString key defaultValue => configuration.getString key defaultValue
  | .getInt key defaultValue => configuration.getInt key defaultValue
  | .getBool key defaultValue => configuration.getBool key defaultValue

end DatabaseConfiguration

end ElapPlatform.Config
