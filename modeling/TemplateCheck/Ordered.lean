/-! # Increasing lists

Sets and maps kept as lists in increasing order of a comparison. Elements that
compare equal are one element, and the one that came first keeps its place and
its spelling.
-/

namespace TemplateCheck.Ordered

variable {item key value : Type}

/-- Add an element, unless an equal one is there already. -/
def insert (order : item → item → Ordering) (added : item) : List item → List item
  | [] => [added]
  | head :: tail =>
      match order added head with
      | .lt => added :: head :: tail
      | .eq => head :: tail
      | .gt => head :: insert order added tail

/-- Add all the elements of a list, one after the other. -/
def insertAll (order : item → item → Ordering) (added : List item) (items : List item) :
    List item :=
  added.foldl (fun items next => insert order next items) items

def put (order : key → key → Ordering) (name : key) (content : value) :
    List (key × value) → List (key × value)
  | [] => [(name, content)]
  | (headName, headContent) :: tail =>
      match order name headName with
      | .lt => (name, content) :: (headName, headContent) :: tail
      | .eq => (headName, content) :: tail
      | .gt => (headName, headContent) :: put order name content tail

def find? (order : key → key → Ordering) (name : key) : List (key × value) → Option value
  | [] => none
  | (headName, headContent) :: tail =>
      match order name headName with
      | .eq => some headContent
      | _ => find? order name tail

def erase (order : key → key → Ordering) (name : key) :
    List (key × value) → List (key × value)
  | [] => []
  | (headName, headContent) :: tail =>
      match order name headName with
      | .eq => tail
      | _ => (headName, headContent) :: erase order name tail

/-- Lists compare by their first difference; a proper beginning comes first. -/
def compareLists (order : item → item → Ordering) : List item → List item → Ordering
  | [], [] => .eq
  | [], _ :: _ => .lt
  | _ :: _, [] => .gt
  | left :: lefts, right :: rights => (order left right).then (compareLists order lefts rights)

end TemplateCheck.Ordered
