import ColorMarkup.Toml.Dialect
import ColorMarkup.Value

/-!
Documents under construction. Keys may be set once, but a table may be given in several parts. It
remembers how it came to be: below a header of a deeper table, by a header of its own, or along the
points of a dotted key; that decides which parts may still join it.
-/

namespace ColorMarkup.Toml

inductive TableKind where
  /-- only headers of tables below it have been seen -/
  | implied
  /-- it has a header of its own -/
  | declared
  /-- it was made by the points of a key -/
  | dotted
deriving DecidableEq

inductive Node where
  /-- a value, which nothing can be added to -/
  | leaf (value : Value)
  | table (kind : TableKind) (entries : List (String × Node))
  /-- tables under one repeated header -/
  | tables (items : List Node)

abbrev Nodes := List (String × Node)

namespace Node

mutual

def toValue : Node → Value
  | .leaf value => value
  | .table _ entries => .table (toEntries entries)
  | .tables items => .array (toValues items)

def toEntries : List (String × Node) → List (String × Value)
  | [] => []
  | (key, node) :: rest => (key, node.toValue) :: toEntries rest

def toValues : List Node → List Value
  | [] => []
  | node :: rest => node.toValue :: toValues rest

end

end Node

/-- Why something cannot stand under a key: the key is taken, or a header declares a table that
dotted keys have made. -/
inductive Clash where
  | repeated (key : String)
  | reopened
deriving DecidableEq

namespace TableKind

/-- The kind of a table that a further part has joined. A header can declare it once, and only
before dotted keys add to it; dotted keys can add to it as long as no header has declared it. In
the tolerant notation the latest part alone decides what may follow. -/
def join (dialect : Dialect) (key : String) (added present : TableKind) :
    Except Clash TableKind :=
  match added, present with
  | declared, implied => .ok declared
  | declared, declared => .error (.repeated key)
  | declared, dotted => .error .reopened
  | dotted, declared => .error (.repeated key)
  | dotted, _ => .ok dotted
  | implied, kind =>
    match dialect with
    | .tolerant => .ok implied
    | .strict => .ok kind

end TableKind

namespace Nodes

def change (key : String) (update : Option Node → Except Clash Node) :
    Nodes → Except Clash Nodes
  | [] => (update none).map fun node => [(key, node)]
  | (name, node) :: rest =>
    if name = key then (update (some node)).map fun node => (name, node) :: rest
    else (change key update rest).map fun rest => (name, node) :: rest

/-- Sets a value under a dotted key, whose points pass through tables of dotted keys. -/
def setValue (value : Value) : (path : List String) → Nodes → Except Clash Nodes
  | [], _ => .error (.repeated "")
  | [key], nodes =>
    change key
      (fun
        | none => .ok (.leaf value)
        | some _ => .error (.repeated key))
      nodes
  | key :: next :: path, nodes =>
    change key
      (fun
        | none => (setValue value (next :: path) []).map (.table .dotted)
        | some (.table .dotted entries) =>
          (setValue value (next :: path) entries).map (.table .dotted)
        | some _ => .error (.repeated key))
      nodes

def changeLast (update : Node → Except Clash Node) : List Node → Except Clash (List Node)
  | [] => .ok []
  | [node] => (update node).map fun node => [node]
  | node :: rest => (changeLast update rest).map fun rest => node :: rest

end Nodes

mutual

/-- Joins a node to the one that stands under its key. A header that leads through a repeated one
means the last table below it. -/
def Node.join (dialect : Dialect) (key : String) :
    (added : Node) → (present : Node) → Except Clash Node
  | .table kind entries, .table presentKind present =>
    match kind.join dialect key presentKind with
    | .error clash => .error clash
    | .ok kind => (Nodes.join dialect entries present).map (.table kind)
  | .tables items, .tables present => .ok (.tables (present ++ items))
  | .table .implied entries, .tables present =>
    (Nodes.changeLast
      (fun
        | .table kind present => (Nodes.join dialect entries present).map (.table kind)
        | _ => .error (.repeated key))
      present).map .tables
  | _, _ => .error (.repeated key)

def Nodes.join (dialect : Dialect) :
    (added : List (String × Node)) → (present : List (String × Node)) → Except Clash Nodes
  | [], present => .ok present
  | (key, node) :: rest, present =>
    match
      Nodes.change key
        (fun
          | none => .ok node
          | some present => Node.join dialect key node present)
        present with
    | .error clash => .error clash
    | .ok present => Nodes.join dialect rest present

end

namespace Nodes

def under (path : List String) (node : Node) : Node :=
  path.foldr (fun key node => .table .implied [(key, node)]) node

def attach (dialect : Dialect) (path : List String) (node : Node) (nodes : Nodes) :
    Except Clash Nodes :=
  match path with
  | [] => .error (.repeated "")
  | key :: rest => join dialect [(key, under rest node)] nodes

end Nodes

end ColorMarkup.Toml
