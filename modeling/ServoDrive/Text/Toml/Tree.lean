import ServoDrive.Text.Toml.Scalar

/-!
# TOML tables under construction

A document is read line by line into a tree of tables. What TOML allows next depends on how each
table came to be, so the tree remembers it (`Origin`):

- a table that a header `[a.b]` names, or that a `key = { … }` value gives, is *defined*;
- a table that a header passes on its way (`a` for `[a.b]`) is *implicit* until a header of its
  own defines it;
- a table that a dotted key passes (`a` for `a.b = 1`) is *dotted*.

The rules, each an operation below:

1. `Entries.assign`: a dotted key walks only through implicit or dotted tables (or into the last
   table of an array of tables), creating dotted ones; the table that receives the value must be
   dotted when the key is dotted, and must not hold the key yet. A dotted key therefore never
   adds to a table that a header defined or passed.
2. `Entries.defineTable`: a header walks through any tables, creating implicit ones; the table it
   names must be absent or implicit, and becomes defined.
3. `Entries.appendTable`: an array-of-tables header `[[a.b]]` walks the same way; `b` must be
   absent or an array of tables, and gains a new empty table.

The key-value lines after a header go to the table it named; after `[[a]]` that is the last
table of the array. Walking into a value that is not a table is refused in every case, so an
inline table or an array given as a value is never extended.
-/

namespace ServoDrive.Toml

/-- How a table of a document came to be. -/
inductive Origin where
  /-- Named by a header, or given whole as a value. -/
  | defined
  /-- Passed by a header on its way to another table. -/
  | implicit
  /-- Passed by a dotted key. -/
  | dotted
  deriving DecidableEq, Repr

/-- A node of a document under construction. -/
inductive Node where
  | value (v : Value)
  | table (origin : Origin) (entries : List (String × Node))
  /-- An array of tables, from `[[…]]` headers; the last table receives the lines that follow. -/
  | tables (items : List (List (String × Node)))
  deriving Inhabited

/-- The entries of a table under construction. -/
abbrev Entries := List (String × Node)

namespace Entries

/-- The node at a key. -/
def get? (es : Entries) (k : String) : Option Node := (es.find? (·.1 == k)).map (·.2)

/-- The entries with the node at a key replaced, or added last. -/
def set (es : Entries) (k : String) (n : Node) : Entries :=
  if es.any (·.1 == k) then es.map fun e => if e.1 == k then (k, n) else e
  else es ++ [(k, n)]

/-- Apply `f` to the table at the end of `path`, creating the missing tables on the way with the
origin `made`. `f` sees the origin of the table it changes. The walk refuses to enter a value,
and, when `guarded`, a defined table; it enters the last table of an array of tables. -/
def modifyAt (guarded : Bool) (made : Origin) (f : Origin → Entries → Option Entries) :
    List String → Origin → Entries → Option Entries
  | [], o, es => f o es
  | k :: ks, _, es =>
    match es.get? k with
    | none => do
      let inner ← modifyAt guarded made f ks made []
      some (es.set k (.table made inner))
    | some (.value _) => none
    | some (.table o inner) =>
      if guarded && o == .defined then none
      else do
        let inner ← modifyAt guarded made f ks o inner
        some (es.set k (.table o inner))
    | some (.tables ts) => do
      let last ← ts.getLast?
      let last ← modifyAt guarded made f ks .defined last
      some (es.set k (.tables (ts.dropLast ++ [last])))

/-- The table that receives `key = v`, where `key` is `path` followed by `k`, given to the
table `es` of origin `o`. -/
def assign (path : List String) (k : String) (v : Value) (o : Origin) (es : Entries) :
    Option Entries :=
  modifyAt true .dotted
    (fun o es =>
      if (o == .dotted) == path.isEmpty then none
      else if (es.get? k).isSome then none
      else some (es ++ [(k, .value v)]))
    path o es

/-- The entries after a header `[path.k]`. -/
def defineTable (path : List String) (k : String) (es : Entries) : Option Entries :=
  modifyAt false .implicit
    (fun _ es =>
      match es.get? k with
      | none => some (es.set k (.table .defined []))
      | some (.table .implicit inner) => some (es.set k (.table .defined inner))
      | some _ => none)
    path .defined es

/-- The entries after a header `[[path.k]]`. -/
def appendTable (path : List String) (k : String) (es : Entries) : Option Entries :=
  modifyAt false .implicit
    (fun _ es =>
      match es.get? k with
      | none => some (es.set k (.tables [[]]))
      | some (.tables ts) => some (es.set k (.tables (ts ++ [[]])))
      | some _ => none)
    path .defined es

end Entries

mutual

/-- The value a node stands for. -/
def Node.toValue : Node → Value
  | .value v => v
  | .table _ es => .table (Entries.toValues es)
  | .tables ts => .array (Entries.tablesToValues ts)

/-- The values of the entries of a table. -/
def Entries.toValues : Entries → List (String × Value)
  | [] => []
  | (k, n) :: rest => (k, n.toValue) :: Entries.toValues rest

/-- The tables of an array of tables, as values. -/
def Entries.tablesToValues : List Entries → List Value
  | [] => []
  | es :: rest => .table (Entries.toValues es) :: Entries.tablesToValues rest

end

end ServoDrive.Toml
