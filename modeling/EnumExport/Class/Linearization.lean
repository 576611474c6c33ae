/-!
# Linearization

The order in which a class and its ancestors are asked: each class before its own ancestors, the
parents in the order in which they are declared, and every parent's own order kept. `merge` puts
several orders together by always taking the first head that stands in no tail.
-/

namespace EnumExport.Linearization

variable {α : Type} [DecidableEq α]

/-- The first head of some orders that stands in the tail of none. -/
def nextHead? (orders : List (List α)) : Option α :=
  orders.findSome? fun
    | [] => none
    | x :: _ => if orders.any fun o => o.tail.contains x then none else some x

/-- An order without its head, when that is the given one. -/
def dropHead (x : α) : List α → List α
  | [] => []
  | y :: ys => if y = x then ys else y :: ys

/-- Puts orders together, at most `fuel` items. -/
def mergeWithin : Nat → List (List α) → Option (List α)
  | 0, orders => if orders.all List.isEmpty then some [] else none
  | fuel + 1, orders =>
    if orders.all List.isEmpty then some []
    else match nextHead? orders with
      | none => none
      | some x => (mergeWithin fuel (orders.map (dropHead x))).map (x :: ·)

/-- Orders put together into one that keeps each of them; nothing where they contradict each
other. -/
def merge (orders : List (List α)) : Option (List α) :=
  mergeWithin orders.flatten.length orders

/-- The order of a class, given its parents and their orders. -/
def ofParents (self : α) (parents : List α) (orders : List (List α)) : Option (List α) :=
  (merge (orders ++ [parents])).map (self :: ·)

end EnumExport.Linearization
