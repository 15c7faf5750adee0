import Mathlib.Data.List.TakeWhile

/-!
# Byte strings and error texts

Every `std::string` of the platform is a list of bytes.  A C interface that
receives `c_str()` sees the bytes before the first NUL only.  A function that
returns `false` writes one error text; the part of a text that `strerror`
supplies is kept as the error number it is computed from.
-/

namespace ElapPlatform

abbrev Bytes := List UInt8

/-- The bytes a C function reads from `text.c_str()`. -/
def cString (text : Bytes) : Bytes := text.takeWhile (· ≠ 0)

def NulFree (text : Bytes) : Prop := (0 : UInt8) ∉ text

instance (text : Bytes) : Decidable (NulFree text) :=
  inferInstanceAs (Decidable ((0 : UInt8) ∉ text))

theorem cString_eq_self {text : Bytes} (hfree : NulFree text) :
    cString text = text := by
  unfold cString
  rw [List.takeWhile_eq_self_iff]
  intro byte hmem
  have hne : byte ≠ 0 := by
    intro hzero
    exact hfree (hzero ▸ hmem)
  simpa using hne

theorem cString_nulFree (text : Bytes) : NulFree (cString text) := by
  intro hmem
  have hne := List.mem_takeWhile_imp hmem
  simp at hne

/-- The first `byte` is the one behind a text without it. -/
theorem idxOf?_append_cons {before after : Bytes} {byte : UInt8} (hbefore : byte ∉ before) :
    (before ++ byte :: after).idxOf? byte = some before.length := by
  refine List.idxOf?_eq_some_iff.mpr ⟨by simp, by simp, fun index hindex heq => hbefore ?_⟩
  rw [List.getElem_append_left hindex] at heq
  exact heq ▸ List.getElem_mem hindex

abbrev Errno := ℕ

def ENOENT : Errno := 2
def EINTR : Errno := 4
def EAGAIN : Errno := 11
def EWOULDBLOCK : Errno := EAGAIN
def ECONNREFUSED : Errno := 111

abbrev SystemResult (α : Type) := Except Errno α

inductive ErrorText where
  | message (text : String)
  | system (operation : String) (errno : Errno)
  deriving DecidableEq, Repr

/-- `operation + " failed: " + std::strerror(errno)`. -/
def systemError (operation : String) (errno : Errno) : ErrorText :=
  .system operation errno

/-- What a call returned, `true` if it sets no error, and its object after it. -/
structure ObjectAnswer (Object : Type) where
  error : Option ErrorText
  object : Object
  deriving DecidableEq, Repr

end ElapPlatform
