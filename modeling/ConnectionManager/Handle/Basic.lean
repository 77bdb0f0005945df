import ConnectionManager.Failure
import ConnectionManager.Text.Quoted

/-!
Handles and what they stand for. A handle is a small number in place of an identifier; zero is
reserved and stands for nothing. The kind says in which repository a handle is to be looked up.
-/

namespace ConnectionManager

abbrev Handle := Nat

namespace Handle

def none : Handle := 0

def isNone (handle : Handle) : Bool := handle == 0

/-- One more than the greatest number that fits a handle. -/
def limit : Nat := 0x100000000

end Handle

inductive HandleKind
  | none
  | contact
  | room
  | list
  | group
deriving DecidableEq, Repr

namespace HandleKind

def all : List HandleKind := [.none, .contact, .room, .list, .group]

def number : HandleKind → Nat
  | .none => 0
  | .contact => 1
  | .room => 2
  | .list => 3
  | .group => 4

def name : HandleKind → String
  | .none => "none"
  | .contact => "contact"
  | .room => "room"
  | .list => "list"
  | .group => "group"

def title : HandleKind → String
  | .none => "None"
  | .contact => "Contact"
  | .room => "Room"
  | .list => "List"
  | .group => "Group"

def ofName? (name : String) : Option HandleKind := all.find? fun kind => kind.name = name

def ofNumber (number : Nat) : Outcome HandleKind :=
  match all[number]? with
  | some kind => .ok kind
  | Option.none => .error ⟨.invalidArgument, s!"handle type {number} is not valid"⟩

instance : Ord HandleKind := ⟨fun left right => compare left.number right.number⟩

instance : Std.TransOrd HandleKind where
  eq_swap {left right} :=
    @Std.OrientedCmp.eq_swap Nat compare _ left.number right.number
  isLE_trans {left middle right} :=
    @Std.TransCmp.isLE_trans Nat compare _ left.number middle.number right.number

instance : Std.LawfulEqOrd HandleKind where
  compare_self {kind} := @Std.ReflCmp.compare_self Nat compare _ kind.number
  eq_of_compare {left right} same := by
    have numbers : left.number = right.number := @Std.LawfulEqCmp.eq_of_compare Nat compare _ _ _ same
    cases left <;> cases right <;> first | rfl | cases numbers

end HandleKind

/-- The four contact lists that a server keeps. -/
inductive ListName
  | subscribe
  | publish
  | stored
  | deny
deriving DecidableEq, Repr

namespace ListName

/-- In handle order: the handle of a list is its position, counted from one. -/
def all : List ListName := [.subscribe, .publish, .stored, .deny]

def name : ListName → String
  | .subscribe => "subscribe"
  | .publish => "publish"
  | .stored => "stored"
  | .deny => "deny"

def handle : ListName → Handle
  | .subscribe => 1
  | .publish => 2
  | .stored => 3
  | .deny => 4

def ofName? (name : String) : Option ListName := all.find? fun list => list.name = name

def ofHandle? (handle : Handle) : Option ListName := all.find? fun list => list.handle = handle

instance : Ord ListName := ⟨fun left right => compare left.handle right.handle⟩

instance : Std.TransOrd ListName where
  eq_swap {left right} :=
    @Std.OrientedCmp.eq_swap Nat compare _ left.handle right.handle
  isLE_trans {left middle right} :=
    @Std.TransCmp.isLE_trans Nat compare _ left.handle middle.handle right.handle

instance : Std.LawfulEqOrd ListName where
  compare_self {list} := @Std.ReflCmp.compare_self Nat compare _ list.handle
  eq_of_compare {left right} same := by
    have handles : left.handle = right.handle := @Std.LawfulEqCmp.eq_of_compare Nat compare _ _ _ same
    cases left <;> cases right <;> first | rfl | cases handles

end ListName

end ConnectionManager
