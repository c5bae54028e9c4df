import AgentManifest.Json.Reader
import AgentManifest.Schema.Compiled
import AgentManifest.Schema.Fault
import AgentManifest.Schema.Filling
import AgentManifest.Schema.Interpretation
import AgentManifest.Schema.MetaSchema

/-!
# Compiling schemas

A schema is compiled in steps that can each fail: its draft is known, its references lead to
resources that are there, it satisfies the schema of its draft, and each of its keywords can be
read. Schemas that name no draft are read as draft 7.
-/

namespace AgentManifest.Schema

open Json (Value Members Location)

/-! ## What references lead to -/

namespace Table

/-- Whether something that was put off is there already. -/
def has (table : Table) (d : Deferred) : Bool :=
  match d.focus? with
  | none => (table.forms.lookup d.target).isSome
  | some focus => (table.coverages.lookup (focus, d.target)).isSome

/-- Adds what was put off, and gives what is put off in turn. What cannot be compiled says
nothing. -/
def add (r : Reader) (table : Table) (d : Deferred) : Table × List Deferred :=
  match d.focus? with
  | none =>
    let (s, later) :=
      match (r.form d.contents d.context).run Progress.start with
      | .ok (s, p) => (s, p.deferred)
      | .error _ => (.always, [])
    ({ table with forms := (d.target, s) :: table.forms }, later)
  | some focus =>
    let (s, later) :=
      match (r.coverage focus d.contents d.context).run Progress.start with
      | .ok (s, p) => (s, p.deferred)
      | .error _ => (.join [], [])
    ({ table with coverages := ((focus, d.target), s) :: table.coverages }, later)

/-- Adds all that was put off, each once. -/
def complete (r : Reader) : Nat → Table → List Deferred → Table
  | 0, table, _ => table
  | _, table, [] => table
  | fuel + 1, table, d :: rest =>
    if table.has d then complete r fuel table rest
    else
      let (table, later) := table.add r d
      complete r fuel table (later ++ rest)

end Table

mutual

/-- The number of arrays and objects in a tree. -/
def collections : Value → Nat
  | .array vs => 1 + collectionsInItems vs
  | .object ms => 1 + collectionsInMembers ms
  | _ => 0

/-- The number of arrays and objects in some items. -/
def collectionsInItems : List Value → Nat
  | [] => 0
  | v :: vs => collections v + collectionsInItems vs

/-- The number of arrays and objects in some members. -/
def collectionsInMembers : List (String × Value) → Nat
  | [] => 0
  | (_, v) :: ms => collections v + collectionsInMembers ms

end

/-- The number of arrays and objects in all resources. -/
def Registry.size (reg : Registry) : Nat :=
  collectionsInItems (reg.resources.map fun r => r.2.contents)

/-- The reader of the schemas in a registry. No two references that are followed in place one
inside the other lead to the same identifier; an object has at most two references and at most one
identifier. -/
def Registry.reader (reg : Registry) : Reader :=
  Reader.following reg (Nat.pow (2 * reg.size + 2) 2)

/-- How much is put off at most on the way through all resources, each of which is read once for
each resource that it can be reached from. -/
def Registry.exploration (reg : Registry) : Nat := Nat.pow (2 * reg.size + 2) 3

/-- Compiles a schema and all that its references lead to. -/
def link (reg : Registry) (id? : Option String) (c : Context) (root : Value) :
    Except Flaw Compiled :=
  let r := reg.reader
  let read : Compiling Form := do
    (Part.of r root).form (← Compiling.lift (c.enterAs c.draft root))
  match read.run Progress.start with
  | .ok (s, p) => .ok { id?, root := s, table := Table.complete r reg.exploration {} p.deferred }
  | .error flaw => .error flaw

/-! ## The schemas of the drafts -/

/-- A registry with the schemas that a draft comes with. None of them has further identifiers
inside. -/
def Registry.withDraft (reg : Registry) (d : Draft) : Registry :=
  (MetaSchema.documents d).foldl (fun reg document =>
    let r : Resource := { contents := document.2, draft := d }
    (reg.insert document.1 r).insertNames document.1 r) reg

/-- The registry that holds the schemas of all drafts. -/
def Registry.standard : Registry := MetaSchema.drafts.foldl Registry.withDraft Registry.empty

/-- The schema that schemas of a draft have to satisfy. -/
def metaSchema (d : Draft) : Compiled :=
  let id := MetaSchema.identifier d
  match Registry.standard.find? id with
  | some r =>
    match link Registry.standard (some id) (Context.root d d.vocabularies id) r.contents with
    | .ok s => s
    | .error _ => default
  | none => default

/-- The schemas that the schemas of each draft have to satisfy. -/
def metaSchemas : List (Draft × Compiled) := MetaSchema.drafts.map fun d => (d, metaSchema d)

/-- What is wrong with a schema by the rules of its draft. -/
def flaw? (d : Draft) (root : Value) : Option Flaw :=
  match metaSchemas.lookup d with
  | some s =>
    match s.failures root with
    | f :: _ => some { place := f.place, fault := .unfit ((root.at? f.place).getD .null) f.cause }
    | [] => none
  | none => none

/-! ## Compiling -/

/-- The draft of a root schema that names none. -/
def defaultDraft : Draft := .draft7

/-- The draft of a root schema. One that names its draft by no string is read in the newest, and one
that names a schema of schemas of its own is read in the draft of that, if it is supplied. -/
def rootDraft (root : Value) (supplied : List (String × Value)) : Except Fault Draft :=
  match draftOf (if (root.get? "$schema").isSome then .draft2020 else defaultDraft) root with
  | .error (.unknownDraft text) =>
    match (rootIdentifier text).toOption.bind fun id => supplied.lookup id with
    | some v => draftOf .draft2020 v
    | none => .error (.unknownDraft text)
  | found => found

/-- The registry of a root schema and where the root stands. -/
def situate (root : Value) (supplied : List (String × Value)) :
    Except Fault (Registry × Context) := do
  let draft ← rootDraft root supplied
  let base ←
    match draft.identifier? root with
    | some id => rootIdentifier id
    | none => .ok defaultBase
  let reg ← Registry.standard.build base draft root supplied
  .ok (reg, Context.root draft (reg.vocabularies draft root) base)

/-- Compiles a schema, with resources by identifier that it may refer to. -/
def compile (root : Value) (supplied : List (String × Value)) : Except Error Compiled :=
  let id? := (root.get? "$id").bind Value.string?
  match situate root supplied with
  | .error fault => .error (.flawed id? { place := [], fault })
  | .ok (reg, c) =>
    match flaw? c.draft root with
    | some flaw => .error (.flawed id? flaw)
    | none =>
      match link reg id? c root with
      | .ok s => .ok s
      | .error flaw => .error (.flawed id? flaw)

/-- Compiles a schema from its text. The origin says in errors which text it is. -/
def compileText (text origin : String) : Except Error Compiled :=
  match Json.read text with
  | .error e => .error (.notJson origin e)
  | .ok root => compile root []

/-- Compiles a schema from a file. -/
def compileFile (files : Files.Tree) (p : Files.Path) : Except Error Compiled :=
  match files.readText p with
  | .error reason => .error (.unreadable p reason)
  | .ok text => compileText (String.ofList text) p.text

end AgentManifest.Schema
