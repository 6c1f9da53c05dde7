/-!
Kinds of failure. Each kind has a number, by which generated code compares it, and a display
name; both are one-to-one. The kind `ok` stands for "no failure is pending".
-/

namespace Underlay

inductive Kind where
  | ok
  | generic
  | memory
  | index
  | key
  | value
  | type
  | io
  | fileNotFound
  | permission
  | runtime
deriving DecidableEq, Repr, Inhabited

namespace Kind

/-- Every kind, in the order of the numbers. -/
def all : List Kind :=
  [ok, generic, memory, index, key, value, type, io, fileNotFound, permission, runtime]

def code : Kind → Nat
  | ok => 0
  | generic => 1
  | memory => 2
  | index => 3
  | key => 4
  | value => 5
  | type => 6
  | io => 7
  | fileNotFound => 8
  | permission => 9
  | runtime => 10

def name : Kind → String
  | ok => "OK"
  | generic => "GenericError"
  | memory => "MemoryError"
  | index => "IndexError"
  | key => "KeyError"
  | value => "ValueError"
  | type => "TypeError"
  | io => "IOError"
  | fileNotFound => "FileNotFoundError"
  | permission => "PermissionError"
  | runtime => "RuntimeError"

def ofCode? (code : Int) : Option Kind :=
  all.find? (fun kind => kind.code == code)

def ofName? (name : String) : Option Kind :=
  all.find? (fun kind => kind.name == name)

def isOk (kind : Kind) : Bool :=
  kind == ok

theorem mem_all (kind : Kind) : kind ∈ all := by
  cases kind <;> decide

theorem ofCode?_code (kind : Kind) : ofCode? kind.code = some kind := by
  cases kind <;> rfl

theorem ofName?_name (kind : Kind) : ofName? kind.name = some kind := by
  cases kind <;> decide +kernel

end Kind

end Underlay
