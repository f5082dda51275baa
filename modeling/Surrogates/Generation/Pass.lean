/-
Surrogates.Generation.Pass — one pass over entries.

A generator remembers the targets it has made units for. A pass goes in
three steps. Entries with two overrides of one thing are rejected, entries
with types that are not known are deferred, and the others are ready. Ready
entries that need a derived serializer wait for the entries that list its
type, and what no entry provides is warned of. Then each ready entry in that
order gets the units of its targets that have none yet, and its module.
-/
import Surrogates.Generation.Report
import Surrogates.Generation.Schedule
import Surrogates.Unit.Synthesis

namespace Surrogates

/-! ## §1 Generators -/

/-- The options of a run, and the targets that have units. -/
structure Generator where
  options : Options
  synthesized : List TypeName
  deriving Inhabited

namespace Generator

/-- The generator that has made no units. -/
def ofOptions (options : Options) : Generator := ⟨options, []⟩

/-- Whether a target has a unit. -/
def isSynthesized (generator : Generator) (target : TypeName) : Bool :=
  generator.synthesized.contains target

end Generator

/-! ## §2 The nodes of an entry -/

/-- A node in the type of a field, with the serializer it resolves to. -/
structure Occurrence where
  owner : TypeName
  field : String
  head : TypeName
  serializer : Option Serializer
  deriving Repr

namespace Context

/-- The nodes of a field's type: the root, resolved as the field, and the nodes
inside. -/
def occurrencesInField (ctx : Context) (owner : TypeName) (field : FieldDecl) : List Occurrence :=
  ⟨owner, field.name, field.type.head, ctx.resolveField owner field.name field.type⟩ ::
    (TypeExpr.nodesOfArgs field.type.args).map fun node =>
      ⟨owner, field.name, node.head, ctx.resolve node⟩

/-- The nodes of the eligible fields of the declared targets that have no unit. -/
def occurrences (ctx : Context) (synthesized targets : List TypeName) : List Occurrence :=
  (targets.filter (!synthesized.contains ·)).flatMap fun target =>
    (ctx.catalog.eligible target).flatMap (ctx.occurrencesInField target)

/-- The types that are neither built in nor declared nor overridden. -/
def unknownTypes (ctx : Context) (occurrences : List Occurrence) : List UnknownType :=
  (occurrences.filter fun o =>
      o.serializer.isNone && !o.head.isBuiltin && !ctx.catalog.declares o.head).map
    fun o => ⟨o.owner, o.field, o.head⟩

end Context

/-! ## §3 Triage -/

/-- An entry that can be processed, and its context. -/
structure Ready where
  entry : Entry
  context : Context

/-- What becomes of an entry at the start of a pass. -/
inductive Triage where
  | rejected (diagnostics : List Diagnostic)
  | deferred (deferral : Deferral)
  | ready (ready : Ready)

namespace Triage

/-- The diagnostics of a rejected entry. -/
def diagnostics : Triage → List Diagnostic
  | rejected diagnostics => diagnostics
  | _ => []

/-- The deferral of a deferred entry. -/
def deferral? : Triage → Option Deferral
  | deferred deferral => some deferral
  | _ => none

/-- The entry, if it is ready. -/
def ready? : Triage → Option Ready
  | ready r => some r
  | _ => none

end Triage

/-- The finding about a second override. -/
def DuplicateOverride.finding : DuplicateOverride → Finding
  | ofType type => .duplicateClassOverride type
  | ofField owner field => .duplicateFieldOverride owner field

namespace Generator

/-- What becomes of an entry at the start of a pass. -/
def triage (generator : Generator) (catalog : Catalog) (entry : Entry) : Triage :=
  match Overrides.ofEntry entry with
  | .error duplicates => .rejected (duplicates.map fun d => ⟨entry.name, d.finding⟩)
  | .ok overrides =>
    let ctx : Context := ⟨catalog, .ofOptions generator.options, overrides⟩
    match ctx.unknownTypes (ctx.occurrences generator.synthesized entry.targets) with
    | [] => .ready ⟨entry, ctx⟩
    | reasons => .deferred ⟨entry.name, reasons⟩

/-! ## §4 Dependencies -/

/-- The targets of ready entries for which units can be made. -/
def produced (catalog : Catalog) (ready : List Ready) : List TypeName :=
  (ready.flatMap (·.entry.targets)).filter fun target => !(catalog.eligible target).isEmpty

/-- The nodes of a ready entry with derived serializers whose types have no
unit yet. -/
def derivations (generator : Generator) (ready : Ready) : List Occurrence :=
  (ready.context.occurrences generator.synthesized ready.entry.targets).filter fun o =>
    (o.serializer.map (·.isDerived)).getD false && !generator.isSynthesized o.head

/-- The types that a ready entry needs from other entries. -/
def needs (generator : Generator) (produced : List TypeName) (ready : Ready) : List TypeName :=
  ((generator.derivations ready).map (·.head)).filter fun type =>
    produced.contains type && !ready.entry.targets.contains type

/-- The derived serializers of a ready entry that no entry provides. -/
def missing (generator : Generator) (produced : List TypeName) (ready : Ready) :
    List Diagnostic :=
  ((generator.derivations ready).filter fun o => !produced.contains o.head).map fun o =>
    ⟨ready.entry.name, .missingSurrogate o.owner o.field o.head⟩

/-- The other ready entries that list a type that an entry needs. -/
def providers (generator : Generator) (produced : List TypeName) (ready : List Ready) (i : Nat) :
    List Nat :=
  match ready[i]? with
  | none => []
  | some r =>
    let needs := generator.needs produced r
    (List.range ready.length).filter fun j =>
      j != i && match ready[j]? with
        | some other => other.entry.targets.any needs.contains
        | none => false

/-- The ready entries in the order in which they are processed. -/
def scheduled (generator : Generator) (produced : List TypeName) (ready : List Ready) :
    List Ready :=
  (Schedule.order ready.length (generator.providers produced ready)).filterMap (ready[·]?)

/-! ## §5 Processing -/

/-- What becomes of a target. -/
inductive Outcome where
  /-- It has a unit from before. -/
  | known
  | undeclared
  | ineligible
  | made (unit : SurrogateUnit)

/-- What becomes of a target of an entry. -/
def outcome (synthesized : List TypeName) (ctx : Context) (target : TypeName) : Outcome :=
  if synthesized.contains target then .known
  else
    match ctx.catalog.find? target with
    | none => .undeclared
    | some decl =>
      match ctx.synthesize? target decl.fields with
      | some unit => .made unit
      | none => .ineligible

namespace Outcome

/-- The unit that was made. -/
def unit? : Outcome → Option SurrogateUnit
  | made unit => some unit
  | _ => none

/-- Whether the target has a unit. -/
def isRegistered : Outcome → Bool
  | known => true
  | made _ => true
  | _ => false

/-- The finding about a target without a unit. -/
def finding? (target : TypeName) : Outcome → Option Finding
  | undeclared => some (.unresolvedType target)
  | ineligible => some (.noEligibleFields target)
  | _ => none

end Outcome

/-- The distinct targets of a ready entry, and what becomes of each. -/
def outcomes (synthesized : List TypeName) (ready : Ready) : List (TypeName × Outcome) :=
  ready.entry.targets.eraseDups.map fun target =>
    (target, outcome synthesized ready.context target)

/-- What processing one entry produced. -/
structure Processed where
  units : List SurrogateUnit
  module? : Option SerializerModule
  diagnostics : List Diagnostic

/-- Processes a ready entry: units for its targets that have none, and the
module of its targets with units and of its overridden types. -/
def process (options : Options) (synthesized : List TypeName) (ready : Ready) : Processed :=
  let outcomes := outcomes synthesized ready
  let registered := (outcomes.filter (·.2.isRegistered)).map fun (target, _) =>
    Registration.mk target (ready.context.naming.serializer target)
  let overridden := ready.context.overrides.types.entries.map fun (type, serializer) =>
    Registration.mk type serializer
  { units := outcomes.filterMap (·.2.unit?)
    module? := SerializerModule.of? (ready.entry.name ++ options.moduleSuffix) ready.entry.name
      (registered ++ overridden) ready.entry.excluded
    diagnostics := outcomes.filterMap fun (target, outcome) =>
      (outcome.finding? target).map (⟨ready.entry.name, ·⟩) }

/-- Processes ready entries one after another; the targets of the units of each
have units for those after it. -/
def processAll (options : Options) : List TypeName → List Ready → List TypeName × List Processed
  | synthesized, [] => (synthesized, [])
  | synthesized, ready :: rest =>
    let processed := process options synthesized ready
    let (synthesized, more) :=
      processAll options (synthesized ++ processed.units.map (·.target)) rest
    (synthesized, processed :: more)

/-! ## §6 Passes -/

/-- One pass over entries: its report, and the generator afterwards. -/
def runPass (generator : Generator) (catalog : Catalog) (pass : Nat) (entries : List Entry) :
    PassReport × Generator :=
  let triaged := entries.map (generator.triage catalog)
  let ready := triaged.filterMap (·.ready?)
  let produced := produced catalog ready
  let (synthesized, processed) :=
    processAll generator.options generator.synthesized (generator.scheduled produced ready)
  ({ pass
     units := processed.flatMap (·.units)
     modules := processed.filterMap (·.module?)
     diagnostics := triaged.flatMap (·.diagnostics) ++ ready.flatMap (generator.missing produced)
       ++ processed.flatMap (·.diagnostics)
     deferred := triaged.filterMap (·.deferral?) },
   { generator with synthesized })

/-- A run of one pass over all entries. -/
def run (generator : Generator) (catalog : Catalog) (entries : List Entry) :
    Generation × Generator :=
  let (report, generator) := generator.runPass catalog 1 entries
  (Generation.empty.absorb report, generator)

end Generator

end Surrogates
