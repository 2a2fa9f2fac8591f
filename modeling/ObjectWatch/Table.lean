/-!
Tables: lists of pairs kept in the order in which their keys were first put in. Putting a key that is
already there keeps its place and its first spelling and replaces the value.
-/

namespace ObjectWatch.Table

variable {α β : Type}

def get? [BEq α] (key : α) (t : List (α × β)) : Option β :=
  (t.find? fun entry => key == entry.1).map (·.2)

def has [BEq α] (key : α) (t : List (α × β)) : Bool :=
  t.any fun entry => key == entry.1

def put [BEq α] (key : α) (value : β) : List (α × β) → List (α × β)
  | [] => [(key, value)]
  | entry :: rest =>
    if key == entry.1 then (entry.1, value) :: rest else entry :: put key value rest

/-- Puts the pairs of a list one after the other. -/
def putAll [BEq α] (t : List (α × β)) (pairs : List (α × β)) : List (α × β) :=
  pairs.foldl (fun t pair => put pair.1 pair.2 t) t

def ofPairs [BEq α] (pairs : List (α × β)) : List (α × β) :=
  putAll [] pairs

def erase [BEq α] (key : α) (t : List (α × β)) : List (α × β) :=
  t.filter fun entry => !(key == entry.1)

def keys (t : List (α × β)) : List α :=
  t.map (·.1)

end ObjectWatch.Table
