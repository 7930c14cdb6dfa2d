import ColorMarkup.Toml.Reader

/-!
Configuration documents: lines that set keys, under headers that say which table they belong to.
The lines below a header are a section; sections below it end before it does, and each is attached
to what is around it when it ends. A key set twice is a flaw of its own below a header or in an
inline table; elsewhere it makes the document malformed, as every other flaw does.
-/

namespace ColorMarkup.Toml

/-- The part of a document under one header, with the parts below it that have ended. -/
structure Section where
  path : List String
  repeated : Bool
  nodes : Nodes := []

namespace Section

def toNode (part : Section) : Node :=
  if part.repeated then .tables [.table .declared part.nodes] else .table .declared part.nodes

def encloses (part : Section) (path : List String) : Bool :=
  part.path.length < path.length && path.take part.path.length == part.path

end Section

/-- A document read so far: what stands above all headers or has been attached there, and the
sections that have not ended, innermost first. -/
structure Assembly where
  nodes : Nodes := []
  sections : List Section := []

namespace Assembly

/-- Ends the sections that do not enclose a path, beginning with the innermost. A section is
attached to what is around it when it ends; only then it can clash. -/
def closeFrom (dialect : Dialect) (path : List String) (nodes : Nodes) (inner : Section) :
    (outer : List Section) → Except Flaw Assembly
  | [] =>
    if inner.encloses path then .ok { nodes, sections := [inner] }
    else
      match Nodes.attach dialect inner.path inner.toNode nodes with
      | .ok nodes => .ok { nodes }
      | .error _ => .error .malformed
  | around :: outer =>
    if inner.encloses path then .ok { nodes, sections := inner :: around :: outer }
    else
      match Nodes.attach dialect (inner.path.drop around.path.length) inner.toNode around.nodes with
      | .ok joined => closeFrom dialect path nodes { around with nodes := joined } outer
      | .error clash => .error clash.toFlaw

def close (dialect : Dialect) (path : List String) (assembly : Assembly) : Except Flaw Assembly :=
  match assembly.sections with
  | [] => .ok assembly
  | inner :: outer => closeFrom dialect path assembly.nodes inner outer

def enter (repeated : Bool) (path : List String) (assembly : Assembly) : Assembly :=
  { assembly with sections := { path, repeated } :: assembly.sections }

def setValue (assembly : Assembly) (path : List String) (value : Value) : Except Flaw Assembly :=
  match assembly.sections with
  | [] =>
    match Nodes.setValue value path assembly.nodes with
    | .ok nodes => .ok { assembly with nodes }
    | .error _ => .error .malformed
  | inner :: outer =>
    match Nodes.setValue value path inner.nodes with
    | .ok nodes => .ok { assembly with sections := { inner with nodes } :: outer }
    | .error clash => .error clash.toFlaw

def finish (dialect : Dialect) (assembly : Assembly) : Except Flaw Entries :=
  (assembly.close dialect []).map fun assembly => Node.toEntries assembly.nodes

end Assembly

/-- The rest after the closing brackets of a header. In the tolerant notation any character may
stand for the second bracket of a repeated header. -/
def closeHeader (dialect : Dialect) (repeated : Bool) (text : List Char) : Option (List Char) :=
  match text with
  | ']' :: rest =>
    if repeated then
      match dialect, rest with
      | .tolerant, _ => some (rest.drop 1)
      | .strict, ']' :: rest => some rest
      | .strict, _ => none
    else some rest
  | _ => none

def readHeader (dialect : Dialect) (repeated : Bool) (assembly : Assembly) (text : List Char) :
    Except Flaw (Assembly × List Char) :=
  match readKey dialect (text.length + 1) text with
  | .error obstacle => .error obstacle.toFlaw
  | .ok (path, rest) =>
    match assembly.close dialect path with
    | .error flaw => .error flaw
    | .ok assembly =>
      match closeHeader dialect repeated rest with
      | none => .error .malformed
      | some rest =>
        match skipLine rest with
        | .error obstacle => .error obstacle.toFlaw
        | .ok rest => .ok (assembly.enter repeated path, rest)

def readSetting (dialect : Dialect) (assembly : Assembly) (text : List Char) :
    Except Flaw (Assembly × List Char) :=
  match readKey dialect (text.length + 1) text with
  | .error obstacle => .error obstacle.toFlaw
  | .ok (path, '=' :: rest) =>
    match readValue dialect (4 * rest.length + 4) (skipSpace rest) with
    | .error obstacle => .error obstacle.toFlaw
    | .ok (value, rest) =>
      match skipLine rest with
      | .error obstacle => .error obstacle.toFlaw
      | .ok rest => (assembly.setValue path value).map (·, rest)
  | .ok _ => .error .malformed

/-- Reads statements to the end of the text; each takes a character at least, which bounds the
fuel. -/
def readStatements (dialect : Dialect) : (fuel : Nat) → Assembly → List Char → Except Flaw Assembly
  | 0, _, _ => .error .malformed
  | fuel + 1, assembly, text =>
    match skipSpace text with
    | [] => .ok assembly
    | '\n' :: rest => readStatements dialect fuel assembly rest
    | '#' :: rest =>
      match skipLine ('#' :: rest) with
      | .ok rest => readStatements dialect fuel assembly rest
      | .error obstacle => .error obstacle.toFlaw
    | '[' :: '[' :: rest =>
      match readHeader dialect true assembly rest with
      | .ok (assembly, rest) => readStatements dialect fuel assembly rest
      | .error flaw => .error flaw
    | '[' :: rest =>
      match readHeader dialect false assembly rest with
      | .ok (assembly, rest) => readStatements dialect fuel assembly rest
      | .error flaw => .error flaw
    | start =>
      match readSetting dialect assembly start with
      | .ok (assembly, rest) => readStatements dialect fuel assembly rest
      | .error flaw => .error flaw

def parse (dialect : Dialect) (text : List Char) : Except Flaw Entries :=
  match readStatements dialect (text.length + 1) {} text with
  | .ok assembly => assembly.finish dialect
  | .error flaw => .error flaw

end ColorMarkup.Toml
