import RouteAtlas.Text.Basic

/-
  How much is logged.  The level is set once, from a given
  name or from the environment; later calls change it only
  when they are forced.
-/

------------------------------------------------------------
-- Levels
------------------------------------------------------------

namespace RouteAtlas

namespace LogLevel

/- The level that is used for names that are no level. -/
def warning : Nat := 30

/- The names of levels and how severe they are. -/
def names : List (Text × Nat) :=
  [("NOTSET".toList, 0), ("DEBUG".toList, 10),
   ("INFO".toList, 20), ("WARNING".toList, warning),
   ("WARN".toList, warning), ("ERROR".toList, 40),
   ("CRITICAL".toList, 50), ("FATAL".toList, 50)]

/- Why a name gives no level. -/
inductive Fault where
  | layout
  | styles
deriving DecidableEq, Repr

/-
  The names that stand for something else: the layout of a
  message and the table of all styles of layouts.
-/
def reserved : List (Text × Fault) :=
  [("BASIC_FORMAT".toList, .layout),
   ("_STYLES".toList, .styles)]

/- The level with a name, in any letter case. -/
def ofName
    (name : Text) :
    Except Fault Nat :=
  let name := Text.upper name
  match reserved.lookup name with
  | some fault => .error fault
  | none => .ok ((names.lookup name).getD warning)

/- The level asked for, an empty name asking for none. -/
def chosen
    (given environment : Option Text) :
    Except Fault Nat :=
  match given, environment with
  | some (c :: rest), _ => ofName (c :: rest)
  | _, some name => ofName name
  | _, none => .ok warning

/-
  The level after it is set up: a level that was set before
  stays unless the call is forced.
-/
def setUp
    (current : Option Nat)
    (given environment : Option Text)
    (force : Bool) :
    Except Fault Nat :=
  match current with
  | some level =>
      if force then chosen given environment else .ok level
  | none => chosen given environment

end LogLevel

end RouteAtlas
