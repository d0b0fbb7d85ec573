import Mathlib.Data.List.DropRight
import Mathlib.Data.List.Nodup
import TypedJson.Config
import TypedJson.Engine.Extension
import TypedJson.Engine.Write
import TypedJson.Proofs.Directory

/-!
Builders at work. A builder keeps no more of the calls that are made on it than their log says: of
the entries registered since the last build the last one under each name, and of each flag the
last value. An engine is what the log says when it is built, and no later call changes it.
-/

namespace TypedJson.Engine.Builder

-----------------------------------------------------------------------------------------
-- Calls
-----------------------------------------------------------------------------------------

/-- A call on a builder. -/
inductive Call where
  | adapter (a : Adapter)
  | object (schema : Schema)
  | extend (extension : Extension)
  | strict (enabled : Bool)
  | pretty (enabled : Bool)
  | build

/-- A builder, and the engines that it has built, the first one in front. -/
@[ext]
structure Work where
  builder : Builder := {}
  built : List Engine := []

namespace Call

/-- What a call does to a builder at work. -/
def apply (work : Work) : Call → Work
  | adapter a => { work with builder := work.builder.register (.adapter a) }
  | object schema => { work with builder := work.builder.register (.object schema) }
  | extend extension => { work with builder := work.builder.extend extension }
  | strict enabled => { work with builder := { work.builder with strict := enabled } }
  | pretty enabled => { work with builder := { work.builder with pretty := enabled } }
  | build =>
      let (engine, builder) := work.builder.build
      ⟨builder, work.built ++ [engine]⟩

/-- The entries that a call registers, in order. -/
def entries : Call → List Entry
  | adapter a => [.adapter a]
  | object schema => [.object schema]
  | extend extension => extension
  | _ => []

/-- The value that a call sets the flag of strictness to, if it is such a call. -/
def strict? : Call → Option Bool
  | strict enabled => some enabled
  | _ => none

/-- The value that a call sets the flag of the layout to, if it is such a call. -/
def pretty? : Call → Option Bool
  | pretty enabled => some enabled
  | _ => none

/-- The call builds an engine. -/
def isBuild : Call → Bool
  | build => true
  | _ => false

end Call

/-- The calls are made one after the other. -/
def run (calls : List Call) (work : Work) : Work :=
  calls.foldl Call.apply work

theorem run_append (before later : List Call) (work : Work)
    : run (before ++ later) work = run later (run before work) :=
  List.foldl_append

theorem run_concat (calls : List Call) (call : Call) (work : Work)
    : run (calls ++ [call]) work = call.apply (run calls work) :=
  run_append calls [call] work

-----------------------------------------------------------------------------------------
-- Registering entries
-----------------------------------------------------------------------------------------

/-- The last of the entries under a name. -/
def lastNamed? (name : String) (entries : List Entry) : Option Entry :=
  (entries.filter fun entry => entry.name == name).getLast?

theorem lastNamed?_append (name : String) (before later : List Entry)
    : lastNamed? name (before ++ later)
        = (lastNamed? name later).or (lastNamed? name before) := by
  rw [lastNamed?, List.filter_append, List.getLast?_append]
  rfl

theorem lastNamed?_singleton (name : String) (entry : Entry)
    : lastNamed? name [entry] = if name = entry.name then some entry else none := by
  by_cases h : name = entry.name
  · simp [lastNamed?, h]
  · simp [lastNamed?, h, Ne.symm h]

/-- Entries registered in turn leave the last one under each name, and what they have no name of, by
induction on the entries. -/
theorem lookup_extend (extension : Extension) (builder : Builder) (name : String)
    : (builder.extend extension).registry.lookup name
        = (lastNamed? name extension).or (builder.registry.lookup name) := by
  induction extension using List.reverseRecOn with
  | nil => rfl
  | append_singleton entries entry ih =>
      have hextend : builder.extend (entries ++ [entry])
          = (builder.extend entries).register entry := List.foldl_append
      have hregister : ((builder.extend entries).register entry).registry
          = Directory.insert entry.name entry (builder.extend entries).registry := rfl
      rw [hextend, hregister, Directory.lookup_insert, ih, lastNamed?_append, lastNamed?_singleton]
      split <;> rfl

/-- A builder keeps its registry in order and its flags while entries are registered. -/
theorem extend_eq (extension : Extension) (builder : Builder)
    : (builder.extend extension).strict = builder.strict
        ∧ (builder.extend extension).pretty = builder.pretty
        ∧ (Directory.Ordered builder.registry →
          Directory.Ordered (builder.extend extension).registry) := by
  induction extension generalizing builder with
  | nil => exact ⟨rfl, rfl, id⟩
  | cons entry rest ih =>
      obtain ⟨strict, pretty, ordered⟩ := ih (builder.register entry)
      exact ⟨strict, pretty, fun h => ordered (Directory.ordered_insert h)⟩

-----------------------------------------------------------------------------------------
-- The log of a builder
-----------------------------------------------------------------------------------------

/-- The entries that have been registered since the last build. -/
def registered (calls : List Call) : List Entry :=
  (calls.rtakeWhile fun call => !call.isBuild).flatMap Call.entries

/-- The last value that calls set a flag to; flags are not set in the beginning. -/
def lastSet (flag? : Call → Option Bool) (calls : List Call) : Bool :=
  (calls.filterMap flag?).getLast?.getD false

theorem registered_concat (calls : List Call) (call : Call)
    : registered (calls ++ [call])
        = if call.isBuild then [] else registered calls ++ call.entries := by
  rw [registered, List.rtakeWhile_concat]
  cases h : call.isBuild with
  | true => rfl
  | false => simp [registered]

theorem lastSet_append (flag? : Call → Option Bool) (before calls : List Call)
    : lastSet flag? (before ++ calls)
        = (calls.filterMap flag?).getLast?.getD (lastSet flag? before) := by
  rw [lastSet, List.filterMap_append, List.getLast?_append, lastSet]
  cases (calls.filterMap flag?).getLast? <;> rfl

theorem lastSet_concat (flag? : Call → Option Bool) (calls : List Call) (call : Call)
    : lastSet flag? (calls ++ [call]) = (flag? call).getD (lastSet flag? calls) := by
  rw [lastSet_append]
  cases h : flag? call <;> simp [h]

/-- The builder keeps what the log of the calls says. -/
structure Keeps (builder : Builder) (calls : List Call) : Prop where
  ordered : Directory.Ordered builder.registry
  lookup : ∀ name, builder.registry.lookup name = lastNamed? name (registered calls)
  strict : builder.strict = lastSet Call.strict? calls
  pretty : builder.pretty = lastSet Call.pretty? calls

theorem keeps_nil : Keeps {} [] :=
  ⟨List.Pairwise.nil, fun _ => rfl, rfl, rfl⟩

/-- A builder that registers what a call does keeps the log with the call. -/
theorem Keeps.extend {builder : Builder} {calls : List Call} (keeps : Keeps builder calls)
    (call : Call) (collects : call.isBuild = false) (strict : call.strict? = none)
    (pretty : call.pretty? = none)
    : Keeps (builder.extend call.entries) (calls ++ [call]) := by
  obtain ⟨hstrict, hpretty, hordered⟩ := extend_eq call.entries builder
  refine ⟨hordered keeps.ordered, fun name => ?_, ?_, ?_⟩
  · rw [lookup_extend, keeps.lookup, registered_concat, if_neg (by simp [collects]),
      lastNamed?_append]
  · rw [hstrict, keeps.strict, lastSet_concat, strict, Option.getD_none]
  · rw [hpretty, keeps.pretty, lastSet_concat, pretty, Option.getD_none]

/-- One more call keeps the log, by cases on the call. -/
theorem Keeps.apply {work : Work} {calls : List Call} (keeps : Keeps work.builder calls)
    (call : Call)
    : Keeps (call.apply work).builder (calls ++ [call]) := by
  cases call with
  | adapter a => exact keeps.extend (.adapter a) rfl rfl rfl
  | object schema => exact keeps.extend (.object schema) rfl rfl rfl
  | extend extension => exact keeps.extend (.extend extension) rfl rfl rfl
  | strict enabled =>
      refine ⟨keeps.ordered, fun name => ?_, ?_, ?_⟩
      · rw [registered_concat]
        exact (keeps.lookup name).trans (by simp [Call.isBuild, Call.entries])
      · rw [lastSet_concat]
        rfl
      · rw [lastSet_concat]
        exact keeps.pretty
  | pretty enabled =>
      refine ⟨keeps.ordered, fun name => ?_, ?_, ?_⟩
      · rw [registered_concat]
        exact (keeps.lookup name).trans (by simp [Call.isBuild, Call.entries])
      · rw [lastSet_concat]
        exact keeps.strict
      · rw [lastSet_concat]
        rfl
  | build =>
      refine ⟨List.Pairwise.nil, fun name => ?_, ?_, ?_⟩
      · rw [registered_concat]
        rfl
      · rw [lastSet_concat]
        exact keeps.strict
      · rw [lastSet_concat]
        exact keeps.pretty

/-- After any calls a new builder keeps their log, by induction on the calls. -/
theorem keeps_run (calls : List Call) : Keeps (run calls {}).builder calls := by
  induction calls using List.reverseRecOn with
  | nil => exact keeps_nil
  | append_singleton calls call ih =>
      rw [run_concat]
      exact ih.apply call

-----------------------------------------------------------------------------------------
-- Engines
-----------------------------------------------------------------------------------------

/-- A call leaves the engines that have been built and adds one if it builds. -/
theorem built_apply (call : Call) (work : Work)
    : (call.apply work).built
        = work.built ++ if call.isBuild then [work.builder.build.1] else [] := by
  cases call <;> simp [Call.apply, Call.isBuild]

theorem built_prefix_run (calls : List Call) (work : Work)
    : work.built <+: (run calls work).built := by
  induction calls generalizing work with
  | nil => exact List.prefix_rfl
  | cons call rest ih =>
      have first : work.built <+: (call.apply work).built :=
        built_apply call work ▸ List.prefix_append _ _
      exact first.trans (ih (call.apply work))

/-- There are as many engines as calls that build. -/
theorem length_built_run (calls : List Call) (work : Work)
    : (run calls work).built.length = work.built.length + calls.countP Call.isBuild := by
  induction calls generalizing work with
  | nil => rfl
  | cons call rest ih =>
      have hrun : run (call :: rest) work = run rest (call.apply work) := rfl
      rw [hrun, ih, built_apply, List.length_append, List.countP_cons]
      cases call.isBuild with
      | true => simp [Nat.add_assoc, Nat.add_comm 1]
      | false => simp

/-- The engine of a build is that of the builder at that time, whatever comes later. -/
theorem getElem?_built_run (before after : List Call) (work : Work)
    : (run (before ++ .build :: after) work).built[work.built.length
          + before.countP Call.isBuild]?
        = some (run before work).builder.build.1 := by
  have hrun : run (before ++ .build :: after) work
      = run after (Call.build.apply (run before work)) := run_append before (.build :: after) work
  obtain ⟨later, hlater⟩ := built_prefix_run after (Call.build.apply (run before work))
  rw [hrun, ← hlater, built_apply, ← length_built_run before work, List.append_assoc]
  simp [Call.isBuild]

-----------------------------------------------------------------------------------------
-- Registrations in another order
-----------------------------------------------------------------------------------------

/-- Of two lists of calls neither builds, both set the same flags to the same values, and they
register the same entries, no two of them under one name, in whatever order. -/
structure Rearranged (calls others : List Call) : Prop where
  collects : ∀ call ∈ calls ++ others, call.isBuild = false
  strict : calls.filterMap Call.strict? = others.filterMap Call.strict?
  pretty : calls.filterMap Call.pretty? = others.filterMap Call.pretty?
  entries : (calls.flatMap Call.entries).Perm (others.flatMap Call.entries)
  distinct : ((calls.flatMap Call.entries).map Entry.name).Nodup

/-- The engines are the same to whatever is asked of them. -/
structure AnswersAs (engine other : Engine) : Prop where
  read : ∀ json type, engine.read json type = other.read json type
  write : ∀ value type, engine.write value type = other.write value type
  isRegistered : ∀ name, engine.isRegistered name = other.isRegistered name
  describe : engine.describe = other.describe

theorem AnswersAs.refl (engine : Engine) : AnswersAs engine engine :=
  ⟨fun _ _ => rfl, fun _ _ => rfl, fun _ => rfl, rfl⟩

/-- Among entries of different names there is one of a name at most. -/
theorem length_filter_le_one {entries : List Entry} (distinct : (entries.map Entry.name).Nodup)
    (name : String)
    : (entries.filter fun entry => entry.name == name).length ≤ 1 := by
  have hcount := List.nodup_iff_count_le_one.mp distinct name
  rwa [List.count, List.countP_map, List.countP_eq_length_filter] at hcount

theorem lastNamed?_of_perm {entries others : List Entry} (perm : entries.Perm others)
    (distinct : (entries.map Entry.name).Nodup) (name : String)
    : lastNamed? name entries = lastNamed? name others := by
  have hfilter := perm.filter fun entry => entry.name == name
  have hlength := length_filter_le_one distinct name
  rw [lastNamed?, lastNamed?]
  generalize entries.filter (fun entry => entry.name == name) = found at *
  match found with
  | [] => rw [hfilter.nil_eq]
  | [entry] => rw [List.perm_singleton.mp hfilter.symm]
  | _ :: _ :: _ => simp at hlength

/-- Builders that keep logs which say the same are equal. -/
theorem Keeps.eq {builder other : Builder} {calls others : List Call}
    (first : Keeps builder calls) (second : Keeps other others)
    (named : ∀ name, lastNamed? name (registered calls) = lastNamed? name (registered others))
    (strict : lastSet Call.strict? calls = lastSet Call.strict? others)
    (pretty : lastSet Call.pretty? calls = lastSet Call.pretty? others)
    : builder = other := by
  have registry : builder.registry = other.registry :=
    first.ordered.eq_of_lookup second.ordered fun name => by
      rw [first.lookup, second.lookup, named]
  obtain ⟨_, _, _⟩ := builder
  obtain ⟨_, _, _⟩ := other
  obtain rfl := registry
  obtain rfl := (first.strict.trans strict).trans second.strict.symm
  obtain rfl := (first.pretty.trans pretty).trans second.pretty.symm
  rfl

/-- Calls that build nothing add their entries to those since the last build, by induction on the
calls. -/
theorem registered_append {calls : List Call} (before : List Call)
    (collects : ∀ call ∈ calls, call.isBuild = false)
    : registered (before ++ calls) = registered before ++ calls.flatMap Call.entries := by
  induction calls using List.reverseRecOn with
  | nil => simp
  | append_singleton calls call ih =>
      have hcall : ¬ call.isBuild = true := by simp [collects call (by simp)]
      rw [← List.append_assoc, registered_concat, if_neg hcall,
        ih fun other hm => collects other (by simp [hm])]
      simp

theorem built_run_of_collects {calls : List Call}
    (collects : ∀ call ∈ calls, call.isBuild = false) (work : Work)
    : (run calls work).built = work.built := by
  induction calls generalizing work with
  | nil => rfl
  | cons call rest ih =>
      have hcall : call.isBuild = false := collects call (by simp)
      have hrun : run (call :: rest) work = run rest (call.apply work) := rfl
      rw [hrun, ih (fun other hm => collects other (by simp [hm])), built_apply, hcall]
      exact List.append_nil work.built

/-- Calls that are only rearranged leave a builder, and the engines of it, the same. -/
theorem Rearranged.run_eq {calls others : List Call} (rearranged : Rearranged calls others)
    (before after : List Call)
    : run (before ++ calls ++ after) {} = run (before ++ others ++ after) {} := by
  have hcalls : ∀ call ∈ calls, call.isBuild = false :=
    fun call hm => rearranged.collects call (by simp [hm])
  have hothers : ∀ call ∈ others, call.isBuild = false :=
    fun call hm => rearranged.collects call (by simp [hm])
  have builder : (run (before ++ calls) {}).builder = (run (before ++ others) {}).builder := by
    refine (keeps_run _).eq (keeps_run _) (fun name => ?_) ?_ ?_
    · rw [registered_append before hcalls, registered_append before hothers, lastNamed?_append,
        lastNamed?_append, lastNamed?_of_perm rearranged.entries rearranged.distinct]
    · rw [lastSet_append, lastSet_append, rearranged.strict]
    · rw [lastSet_append, lastSet_append, rearranged.pretty]
  have built : (run (before ++ calls) {}).built = (run (before ++ others) {}).built := by
    rw [run_append, run_append, built_run_of_collects hcalls, built_run_of_collects hothers]
  rw [run_append (before ++ calls), run_append (before ++ others), Work.ext builder built]

-----------------------------------------------------------------------------------------
-- Configurations
-----------------------------------------------------------------------------------------

/-- The calls by which the engine of a configuration is built. -/
def callsOf (config : Config) (extensions : List Extension) : List Call :=
  .strict config.strict :: .pretty config.pretty :: extensions.map .extend

theorem run_extend (extensions : List Extension) (work : Work)
    : run (extensions.map .extend) work
        = { work with
            builder := extensions.foldl (fun builder extension => builder.extend extension)
              work.builder } := by
  induction extensions generalizing work with
  | nil => rfl
  | cons extension rest ih => exact ih _

theorem ofConfig_eq (config : Config) (extensions : List Extension)
    : Engine.ofConfig config extensions = (run (callsOf config extensions) {}).builder.build.1 := by
  have hrun : run (callsOf config extensions) {} = run (extensions.map .extend)
      { builder := { strict := config.strict, pretty := config.pretty } } := rfl
  rw [hrun, run_extend]
  rfl

theorem registered_callsOf (config : Config) (extensions : List Extension)
    : registered (callsOf config extensions) = extensions.flatten := by
  have collects : ∀ call ∈ callsOf config extensions, call.isBuild = false := by
    simp [callsOf, Call.isBuild]
  have hentries : (extensions.map Call.extend).flatMap Call.entries = extensions.flatten := by
    rw [List.flatMap_map]
    exact List.flatMap_id
  have hregistered := registered_append [] collects
  rw [List.nil_append] at hregistered
  rw [hregistered]
  exact hentries

theorem lastSet_callsOf (config : Config) (extensions : List Extension)
    : lastSet Call.strict? (callsOf config extensions) = config.strict
        ∧ lastSet Call.pretty? (callsOf config extensions) = config.pretty := by
  have hstrict : (callsOf config extensions).filterMap Call.strict? = [config.strict] := by
    simp [callsOf, List.filterMap_cons, Call.strict?]
  have hpretty : (callsOf config extensions).filterMap Call.pretty? = [config.pretty] := by
    simp [callsOf, List.filterMap_cons, Call.pretty?]
  exact ⟨by rw [lastSet, hstrict]; rfl, by rw [lastSet, hpretty]; rfl⟩

-----------------------------------------------------------------------------------------
-- Runs of calls
-----------------------------------------------------------------------------------------

/-- A new builder builds just what the log of its calls says. The engine of a build has under each
name the last entry that was registered since the build before, and none if there was none, and
the last value of each flag since the beginning. It is one of the engines from then on, and there
are no others. Registrations under different names may be rearranged, flags set in between or not,
and no engine answers anything differently. The engine of a configuration has the last entry of
all the extensions under each name. -/
theorem run_refines_log
    : (∀ before after, ∃ engine,
          (run (before ++ .build :: after) {}).built[before.countP Call.isBuild]? = some engine
            ∧ (∀ name, engine.registry.lookup name = lastNamed? name (registered before))
            ∧ engine.strict = lastSet Call.strict? before
            ∧ engine.pretty = lastSet Call.pretty? before)
        ∧ (∀ calls, (run calls {}).built.length = calls.countP Call.isBuild)
        ∧ (∀ calls later, (run calls {}).built <+: (run (calls ++ later) {}).built)
        ∧ (∀ calls others, Rearranged calls others → ∀ before after,
          List.Forall₂ AnswersAs (run (before ++ calls ++ after) {}).built
            (run (before ++ others ++ after) {}).built)
        ∧ ∀ config extensions,
          (∀ name, (Engine.ofConfig config extensions).registry.lookup name
            = lastNamed? name extensions.flatten)
          ∧ (Engine.ofConfig config extensions).strict = config.strict
          ∧ (Engine.ofConfig config extensions).pretty = config.pretty := by
  refine ⟨fun before after => ?_, fun calls => ?_, fun calls later => ?_, ?_, ?_⟩
  · have keeps := keeps_run before
    have built := getElem?_built_run before after {}
    rw [List.length_nil, Nat.zero_add] at built
    exact ⟨_, built, keeps.lookup, keeps.strict, keeps.pretty⟩
  · rw [length_built_run, List.length_nil, Nat.zero_add]
  · exact run_append calls later {} ▸ built_prefix_run later (run calls {})
  · intro calls others rearranged before after
    rw [rearranged.run_eq, List.forall₂_same]
    exact fun engine _ => .refl engine
  · intro config extensions
    have keeps := keeps_run (callsOf config extensions)
    obtain ⟨strict, pretty⟩ := lastSet_callsOf config extensions
    rw [ofConfig_eq]
    refine ⟨fun name => ?_, keeps.strict.trans strict, keeps.pretty.trans pretty⟩
    rw [← registered_callsOf config extensions]
    exact keeps.lookup name

/-- A record of an amount. -/
def priceSchema : Schema where
  name := "Price"
  fields := [("amount", .integer)]

/-- The same record under another name. -/
def prizeSchema : Schema :=
  { priceSchema with name := "Prize" }

/-- Prices are read by an adapter first, and then as records. -/
def pricing : List Call :=
  [.extend [.adapter (Calendar.adapter "Price" .dashed "no date"), .object prizeSchema],
    .strict true, .object priceSchema]

/-- A builder at work on prices, and then on an engine that has prizes only. -/
def shop : Work :=
  run (pricing ++ [.build, .object prizeSchema, .strict false, .build]) {}

/-- Prices and prizes are registered one by one. -/
def oneByOne : List Call := [.object priceSchema, .strict true, .object prizeSchema]

/-- Prizes and prices are registered together. -/
def together : List Call := [.strict true, .extend [.object prizeSchema, .object priceSchema]]

/-- The record of prices takes the place of the adapter, and an engine keeps it when the builder
goes on without it. Prices and prizes may be registered in either order. -/
theorem run_refines_log_prices
    : (∃ engine, shop.built[0]? = some engine
          ∧ engine.registry.lookup "Price" = some (.object priceSchema) ∧ engine.strict = true)
        ∧ (∃ engine, shop.built[1]? = some engine
          ∧ engine.registry.lookup "Price" = none ∧ engine.strict = false)
        ∧ Rearranged oneByOne together
        ∧ List.Forall₂ AnswersAs (run (oneByOne ++ [.build]) {}).built
          (run (together ++ [.build]) {}).built := by
  obtain ⟨built, _, _, answers, _⟩ := run_refines_log
  have rearranged : Rearranged oneByOne together :=
    ⟨by decide, rfl, rfl, List.Perm.swap _ _ _, by decide⟩
  obtain ⟨first, hfirst, lookupFirst, strictFirst, _⟩ :=
    built pricing [.object prizeSchema, .strict false, .build]
  obtain ⟨second, hsecond, lookupSecond, strictSecond, _⟩ :=
    built (pricing ++ [.build, .object prizeSchema, .strict false]) []
  exact ⟨⟨first, hfirst, (lookupFirst "Price").trans rfl, strictFirst⟩,
    ⟨second, hsecond, (lookupSecond "Price").trans rfl, strictSecond⟩,
    rearranged, answers _ _ rearranged [] [.build]⟩

end TypedJson.Engine.Builder
