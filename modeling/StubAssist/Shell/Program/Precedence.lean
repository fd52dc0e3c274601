import StubAssist.Shell.Program.Factoring

/-!
# Orders that keep pairs

Names are put in an order in which the first of each pair comes before the second.
Where that cannot be, loops are shown and broken.
-/

namespace StubAssist
namespace Shell
namespace Program

open Activity

namespace Precedence

/-- A name with what must come after it, the latest first. -/
structure Item where
  name : Text
  later : List Text
  count : Nat
  isDone : Bool
  link : Option Text
deriving DecidableEq, Repr

abbrev Items := List Item

namespace Items

def find? (items : Items) (name : Text) : Option Item :=
  List.find? (·.name == name) items

def update (items : Items) (name : Text) (f : Item → Item) : Items :=
  items.map fun item => if item.name == name then f item else item

def add (name : Text) : Items → Items
  | [] => [⟨name, [], 0, false, none⟩]
  | item :: rest =>
      if item.name == name then item :: rest
      else if name < item.name then ⟨name, [], 0, false, none⟩ :: item :: rest
      else item :: add name rest

def addPair (items : Items) (first second : Text) : Items :=
  let items := (items.add first).add second
  if first == second then items
  else
    (items.update second fun item => { item with count := item.count + 1 }).update first
      fun item => { item with later := second :: item.later }

def ofPairs : Items → List Text → Items
  | items, first :: second :: rest => ofPairs (items.addPair first second) rest
  | items, _ => items

/-- Names that nothing has to come before any more, of those that come after a name. -/
def release (items : Items) : List Text → Items × List Text
  | [] => (items, [])
  | name :: rest =>
      let items := items.update name fun item => { item with count := item.count - 1 }
      let isFree := (items.find? name).any (·.count == 0)
      let (items, free) := release items rest
      (items, if isFree then name :: free else free)

def take : (fuel : Nat) → Items → (queue : List Text) → Items × List Text
  | 0, items, _ => (items, [])
  | _, items, [] => (items, [])
  | fuel + 1, items, name :: queue =>
      let later := ((items.find? name).map (·.later)).getD []
      let items := items.update name fun item => { item with isDone := true }
      let (items, free) := items.release later
      let (items, taken) := take fuel items (queue ++ free)
      (items, name :: taken)

def free (items : Items) : List Text :=
  (items.filter fun item => item.count == 0 && !item.isDone).map (·.name)

/-!
# Loops
-/

def chainTo (items : Items) (last : Text) : (fuel : Nat) → Text → List Text
  | 0, _ => []
  | fuel + 1, name =>
      if name == last then [name]
      else
        match (items.find? name).bind (·.link) with
        | some next => name :: chainTo items last fuel next
        | none => [name]

/-- Goes through all names once to make the chain longer that ends in `head`.  If it
closes, the loop is given with the pair in it that is taken away. -/
def follow : (names : List Text) → Items → (head : Option Text) →
    Items × Option Text × Option (List Text)
  | [], items, head => (items, head, none)
  | name :: names, items, head =>
      match items.find? name with
      | none => follow names items head
      | some item =>
          if item.count == 0 then follow names items head
          else
            match head with
            | none => follow names items (some name)
            | some start =>
                if !List.contains item.later start then follow names items head
                else if item.link.isSome then
                  let loop := items.chainTo name (items.length + 1) start
                  let items := items.update name fun item =>
                    { item with later := item.later.erase start }
                  let items := items.update start fun item => { item with count := item.count - 1 }
                  (items.map fun item => { item with link := none }, none, some loop)
                else follow names (items.update name fun item => { item with link := some start })
                  (some name)

def breakLoop : (fuel : Nat) → Items → (head : Option Text) → Items × List Text
  | 0, items, _ => (items, [])
  | fuel + 1, items, head =>
      match follow (items.map (·.name)) items head with
      | (items, _, some loop) => (items, loop)
      | (items, head, none) => breakLoop fuel items head

def writeAll (topic : Text) : (fuel : Nat) → Items → Activity Unit
  | 0, _ => return ()
  | fuel + 1, items => do
      let (items, taken) := take (items.length + 1) items items.free
      for name in taken do printLine name
      if items.any (!·.isDone) then
        complain (topic ++ ": input contains a loop:")
        let (items, loop) := breakLoop (items.length + 2) items none
        for name in loop do remark name
        writeAll topic fuel items

end Items
end Precedence

def tsort : Program := fun arguments => do
  let given ← given 1 ⟨"", [], false⟩ arguments
  refuseExtra 1 1 given.operands
  let operand := given.operands.headD ['-']
  match ← contents operand with
  | .error error =>
      fail 1 (if isReadFailure error then quoteTopic operand ++ ": read error: " ++ reason error
        else about operand error)
  | .ok t =>
      let names := Factoring.wordsOf t
      if names.length % 2 == 1 then
        fail 1 (quoteTopic operand ++ ": input contains an odd number of tokens")
      let items := Precedence.Items.ofPairs [] names
      items.writeAll (quoteTopic operand) (names.length + 1)

end Program
end Shell
end StubAssist
