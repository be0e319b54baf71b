import ScriptRealm.Proofs.Collection.Plain

/-!
# Dispatch and conversion

Where every capability is a built-in one, looking a member up is one thing and converting it
another. The store alone decides which candidate answers, and whether it hands over a stored value
or runs a callback; what it gives is converted once, at the end. The cast of the caller has no other
part in this.
-/

namespace ScriptRealm

/-! ## Built-in capabilities -/

/-- The capabilities that come with the library: none at all, access to lists or to maps, and a
member that answers to every key. -/
inductive Capability.BuiltIn : Capability → Prop where
  | passive : BuiltIn .passive
  | sequence : BuiltIn .sequence
  | mapping : BuiltIn .mapping
  | accessor (a : Accessor) : BuiltIn a.capability

/-- All capabilities of a context are built-in: those of the realm's prototypes, and those that host
objects bring along. -/
structure Context.BuiltIn (ctx : Context) : Prop where
  levels : ∀ p ∈ ctx.realm.prototypes, ∀ c, p.capability? = some c → c.BuiltIn
  own : ∀ o ∈ ctx.host.objects, ∀ c, o.members = some c → c.BuiltIn

/-! ## Accesses -/

/-- An operation that hands a member over, but for the cast that its caller wants. -/
inductive Access where
  | read (this key : Value)
  | invoke (this key : Value) (args : List Value)
  | delete (this key : Value)

namespace Access

/-- The request for a cast. A deletion has none to choose. -/
def request : Access → Cast → Request
  | .read this key, cast => .read this key cast
  | .invoke this key args, cast => .invoke this key args cast
  | .delete this key, _ => .delete this key

/-- The conversion of what is found. A deletion hands over the form that scripts see. -/
def conversion : Access → Cast → Cast
  | .delete .., _ => .toScript
  | _, cast => cast

def operation : Access → Operation
  | .read .. => .read
  | .invoke .. => .invoke
  | .delete .. => .delete

def key : Access → Value
  | .read _ key => key
  | .invoke _ key _ => key
  | .delete _ key => key

/-- What hands the member of an access over, before any conversion. -/
inductive Source (s : Store) : Access → Program Value → Prop where
  /-- a collection, which keeps the member -/
  | stored {h : Handle} {key v : Value} (hmember : (s.content h).member? key = some v) :
      Source s (.read h.value key) (pure v)
  /-- a collection, which loses the member -/
  | removed {h : Handle} {key v : Value} {s' : Store} (htake : s.takeOut h key = some (v, s')) :
      Source s (.delete h.value key) (do Program.setStore s'; return v)
  /-- a member that holds a value -/
  | constant (this key v : Value) : Source s (.read this key) (pure v)
  /-- a member that runs a callback -/
  | callback {a : Access} {p : Program Value} (e : Accessor)
      (hcall : ∀ cast, e.callback? (a.request cast) = some p) : Source s a p

end Access

/-- What a capability does for an access. -/
def Capability.supply (c : Capability) : Access → Cast → Program Lookup
  | .read this key, cast => c.read this key cast
  | .invoke this key args, cast => c.invoke this key args cast
  | .delete this key, _ => c.delete this key

/-- What a candidate does for an access. -/
def Candidate.supply (c : Candidate) : Access → Cast → Program Lookup
  | .read this key, cast => c.serve (.read this key cast)
  | .invoke this key args, cast => c.serve (.invoke this key args cast)
  | .delete this key, _ => c.serve (.delete this key)

namespace Context

variable (ctx : Context)

/-- Serves an access, beginning at a prototype. -/
def access (start : ProtoId) : Access → Cast → Program Lookup
  | .read this key, cast => ctx.readFrom start this key cast
  | .invoke this key args, cast => ctx.invokeFrom start this key args cast
  | .delete this key, _ => ctx.deleteFrom start this key

/-- What is left to do where no candidate has answered. -/
def missed (start : ProtoId) (a : Access) : Program Lookup := do
  ctx.traceMiss a.operation start a.key
  return .missing

end Context

/-! ## One candidate -/

/-- On a machine, a look-up misses, or hands over what one source gives, converted once. The cast of
the caller does not decide which. -/
def Access.Resolves (a : Access) (m : Machine) (lookup : Cast → Program Lookup) : Prop :=
  (∀ cast, (lookup cast).ActsAs (pure .missing) m) ∨
    ∃ p, a.Source m.store p ∧
      ∀ cast, (lookup cast).ActsAs (Accessor.foundBy (a.conversion cast) p) m

namespace Access.Resolves

variable {a : Access} {m : Machine}

theorem missing : a.Resolves m fun _ => pure .missing :=
  .inl fun _ => .refl _ m

theorem onMiss {first rest : Cast → Program Lookup} (hfirst : a.Resolves m first)
    (hrest : a.Resolves m rest) :
    a.Resolves m fun cast => (first cast).onMiss fun _ => rest cast := by
  rcases hfirst with hmiss | ⟨p, hp, hfound⟩
  · -- the rest is asked on the same machine
    have hnext : ∀ cast, ((first cast).onMiss fun _ => rest cast).ActsAs (rest cast) m :=
      fun cast => (hmiss cast).bind _
    rcases hrest with hmiss' | ⟨p, hp, hfound⟩
    · exact .inl fun cast => (hnext cast).trans (hmiss' cast)
    · exact .inr ⟨p, hp, fun cast => (hnext cast).trans (hfound cast)⟩
  · refine .inr ⟨p, hp, fun cast => ?_⟩
    rw [← Accessor.foundBy_onMiss (a.conversion cast) p fun _ => rest cast]
    exact (hfound cast).bind _

end Access.Resolves

theorem Accessor.resolves (e : Accessor) (a : Access) (m : Machine) :
    a.Resolves m (e.capability.supply a) := by
  cases a with
  | read this key =>
    cases e with
    | property get =>
      exact .inr ⟨get this, .callback (.property get) fun _ => rfl, fun _ => .refl _ m⟩
    | staticProperty get =>
      exact .inr ⟨get, .callback (.staticProperty get) fun _ => rfl, fun _ => .refl _ m⟩
    | staticValue v => exact .inr ⟨pure v, .constant this key v, fun _ => .refl _ m⟩
    | _ => exact .missing
  | invoke this key args =>
    cases e with
    | method call =>
      exact .inr ⟨call this args, .callback (.method call) fun _ => rfl, fun _ => .refl _ m⟩
    | staticMethod call =>
      exact .inr ⟨call args, .callback (.staticMethod call) fun _ => rfl, fun _ => .refl _ m⟩
    | _ => exact .missing
  | delete this key => exact .missing

theorem Handle.resolves_read (h : Handle) (key : Value) (m : Machine) :
    (Access.read h.value key).Resolves m (h.adapter.read h.value key) := by
  have hread := fun cast => Capability.read_adapter_actsAs h key cast m
  cases hmember : (m.store.content h).member? key with
  | none =>
    simp only [hmember] at hread
    exact .inl hread
  | some v =>
    simp only [hmember] at hread
    exact .inr ⟨pure v, .stored hmember, hread⟩

theorem Handle.resolves_delete (h : Handle) (key : Value) (m : Machine) :
    (Access.delete h.value key).Resolves m fun _ => h.adapter.delete h.value key := by
  have hdelete := Capability.delete_adapter_actsAs h key m
  cases htake : m.store.takeOut h key with
  | none =>
    simp only [htake] at hdelete
    exact .inl fun _ => hdelete
  | some taken =>
    simp only [htake] at hdelete
    exact .inr ⟨_, .removed htake, fun _ => hdelete⟩

/-- A built-in capability misses or hands one member over, whatever the cast. -/
theorem Capability.BuiltIn.resolves {c : Capability} (hc : c.BuiltIn) (a : Access) (m : Machine) :
    a.Resolves m (c.supply a) := by
  cases hc with
  | passive => cases a <;> exact .missing
  | sequence =>
    cases a with
    | read this key =>
      cases this with
      | list l => exact Handle.resolves_read (.list l) key m
      | _ => exact .missing
    | invoke this key args => exact .missing
    | delete this key =>
      cases this with
      | list l => exact Handle.resolves_delete (.list l) key m
      | _ => exact .missing
  | mapping =>
    cases a with
    | read this key =>
      cases this with
      | map r => exact Handle.resolves_read (.map r) key m
      | _ => exact .missing
    | invoke this key args => exact .missing
    | delete this key =>
      cases this with
      | map r => exact Handle.resolves_delete (.map r) key m
      | _ => exact .missing
  | accessor e => exact e.resolves a m

/-! ## All candidates -/

/-- Whether a candidate is a built-in capability, or a member of a table. -/
def Candidate.BuiltIn : Candidate → Prop
  | .own c => c.BuiltIn
  | .level c => c.BuiltIn
  | .entry _ => True

theorem Candidate.BuiltIn.resolves {c : Candidate} (hc : c.BuiltIn) (a : Access) (m : Machine) :
    a.Resolves m (c.supply a) := by
  cases c with
  | own c => cases a <;> exact Capability.BuiltIn.resolves hc _ m
  | level c => cases a <;> exact Capability.BuiltIn.resolves hc _ m
  | entry e => cases a <;> exact e.resolves _ m

namespace Context

variable {ctx : Context}

theorem BuiltIn.candidates (hctx : ctx.BuiltIn) (start : ProtoId) (q : Request) :
    ∀ c ∈ ctx.candidates start q, c.BuiltIn := by
  intro c hc
  rcases List.mem_append.1 hc with hown | hlevel
  · obtain ⟨members, hmembers, rfl⟩ := List.mem_map.1 hown
    have hthis := Option.mem_toList.1 hmembers
    unfold ownMembers? at hthis
    split at hthis
    · obtain ⟨object, hobject, hsome⟩ := Option.bind_eq_some_iff.1 hthis
      exact hctx.own object (Array.mem_of_getElem? hobject) members hsome
    · cases hthis
  · obtain ⟨level, hchain, hmem⟩ := List.mem_flatMap.1 hlevel
    rcases List.mem_append.1 hmem with hcapability | hentry
    · obtain ⟨capability, hsome, rfl⟩ := List.mem_map.1 hcapability
      exact hctx.levels level (Realm.mem_of_mem_chain hchain) capability (Option.mem_toList.1 hsome)
    · obtain ⟨e, -, rfl⟩ := List.mem_map.1 hentry
      trivial

/-- The cast has no part in who is asked. -/
theorem candidates_request (start : ProtoId) (a : Access) (cast cast' : Cast) :
    ctx.candidates start (a.request cast) = ctx.candidates start (a.request cast') := by
  cases a <;> rfl

end Context

/-- Asks candidates one after the other. -/
def Access.askAll (a : Access) (cast : Cast) (candidates : List Candidate) : Program Lookup :=
  candidates.foldr (fun c next => (c.supply a cast).onMiss fun _ => next) (pure .missing)

theorem Access.resolves_askAll (a : Access) (m : Machine) {candidates : List Candidate}
    (h : ∀ c ∈ candidates, c.BuiltIn) : a.Resolves m fun cast => a.askAll cast candidates := by
  induction candidates with
  | nil => exact .missing
  | cons c rest ih =>
    have hfirst := (h c List.mem_cons_self).resolves a m
    have hrest := ih fun c' hc' => h c' (List.mem_cons_of_mem c hc')
    exact hfirst.onMiss hrest

namespace Context

variable {ctx : Context}

theorem access_eq_askAll (start : ProtoId) (a : Access) (cast : Cast) :
    ctx.access start a cast =
      (a.askAll cast (ctx.candidates start (a.request cast))).onMiss
        fun _ => ctx.missed start a := by
  cases a with
  | read this key => exact ctx.dispatch_eq_askAll start (.read this key cast)
  | invoke this key args => exact ctx.dispatch_eq_askAll start (.invoke this key args cast)
  | delete this key => exact ctx.dispatch_eq_askAll start (.delete this key)

/-- An access misses, or hands over what one source gives, converted once. -/
theorem BuiltIn.access_cases (hctx : ctx.BuiltIn) (start : ProtoId) (a : Access) (m : Machine) :
    (∀ cast, (ctx.access start a cast).ActsAs (ctx.missed start a) m) ∨
      ∃ p, a.Source m.store p ∧
        ∀ cast, (ctx.access start a cast).ActsAs (Accessor.foundBy (a.conversion cast) p) m := by
  -- the candidates are those of any cast, so one list serves for all of them
  have hall := a.resolves_askAll m (hctx.candidates start (a.request .identity))
  have haccess : ∀ cast, ctx.access start a cast =
      (a.askAll cast (ctx.candidates start (a.request .identity))).onMiss fun _ =>
        ctx.missed start a := by
    intro cast
    rw [access_eq_askAll, candidates_request start a cast .identity]
  rcases hall with hmiss | ⟨p, hp, hfound⟩
  · left
    intro cast
    rw [haccess]
    exact (hmiss cast).bind _
  · refine .inr ⟨p, hp, fun cast => ?_⟩
    rw [haccess, ← Accessor.foundBy_onMiss (a.conversion cast) p fun _ => ctx.missed start a]
    exact (hfound cast).bind _

end Context

/-! ## Who is asked -/

namespace Candidate

variable {answer : (q : Query) → Machine → Ending q.Answer}

/-- A candidate misses, and leaves the machine as it is. -/
def Passes (answer : (q : Query) → Machine → Ending q.Answer) (q : Request) (m : Machine)
    (c : Candidate) : Prop :=
  (c.serve q).run answer m = .returned q.miss m

/-- A candidate does not miss. -/
def Stops (answer : (q : Query) → Machine → Ending q.Answer) (q : Request) (m : Machine)
    (c : Candidate) : Prop :=
  ∀ r m', (c.serve q).run answer m = .returned r m' → q.isMiss r = false

theorem BuiltIn.passes_or_stops {c : Candidate} (hc : c.BuiltIn) (a : Access) (m : Machine) :
    (∀ cast, c.Passes answer (a.request cast) m) ∨ ∀ cast, c.Stops answer (a.request cast) m := by
  rcases hc.resolves a m with hmiss | ⟨p, -, hfound⟩
  · left
    intro cast
    have hrun := (hmiss cast).run answer
    cases a <;> exact hrun
  · right
    intro cast r m' hrun
    have hfoundBy := (hfound cast).run answer
    refine Bool.eq_false_iff.2 fun hmiss => ?_
    have hr := Request.eq_miss_of_isMiss _ hmiss
    cases a <;> exact Accessor.foundBy_ne_missing (hfoundBy.symm.trans hrun) hr

end Candidate

namespace Request

variable {answer : (q : Query) → Machine → Ending q.Answer}

theorem walk_of_passes {q : Request} {c : Candidate} {m : Machine} (h : c.Passes answer q m)
    (rest : List Candidate) :
    (q.walk answer (c :: rest) m).asked = c :: (q.walk answer rest m).asked := by
  rw [walk_of_missed h q.isMiss_miss]

theorem walk_of_stops {q : Request} {c : Candidate} {m : Machine} (h : c.Stops answer q m)
    (rest : List Candidate) : (q.walk answer (c :: rest) m).asked = [c] := by
  rcases walk_cons_cases answer q c rest m with ⟨r, m', hrun, hmiss, -⟩ | hwalk
  · rw [h r m' hrun] at hmiss
    cases hmiss
  · rw [hwalk]

/-- Two walks ask the same candidates if each of them passes both or stops both. -/
theorem asked_congr {q q' : Request} {candidates : List Candidate} {m : Machine}
    (h : ∀ c ∈ candidates, (c.Passes answer q m ∧ c.Passes answer q' m) ∨
      (c.Stops answer q m ∧ c.Stops answer q' m)) :
    (q.walk answer candidates m).asked = (q'.walk answer candidates m).asked := by
  induction candidates with
  | nil => rfl
  | cons c rest ih =>
    have hrest := ih fun c' hc' => h c' (List.mem_cons_of_mem c hc')
    rcases h c List.mem_cons_self with ⟨hpass, hpass'⟩ | ⟨hstop, hstop'⟩
    · rw [walk_of_passes hpass, walk_of_passes hpass', hrest]
    · rw [walk_of_stops hstop, walk_of_stops hstop']

end Request

theorem Access.asked_eq (a : Access) {candidates : List Candidate}
    (h : ∀ c ∈ candidates, c.BuiltIn) (answer : (q : Query) → Machine → Ending q.Answer)
    (m : Machine) (cast cast' : Cast) :
    ((a.request cast).walk answer candidates m).asked =
      ((a.request cast').walk answer candidates m).asked := by
  apply Request.asked_congr
  intro c hc
  rcases (h c hc).passes_or_stops a m with hpass | hstop
  · exact .inl ⟨hpass cast, hpass cast'⟩
  · exact .inr ⟨hstop cast, hstop cast'⟩

/-! ## Conversion of what is found -/

/-- Converts what a look-up finds. -/
def Program.converting (cast : Cast) (p : Program Lookup) : Program Lookup :=
  p.bind fun
    | .found v => Accessor.foundBy cast (pure v)
    | .missing => pure .missing

theorem Program.ActsAs.converting {p p' : Program Lookup} {m : Machine} (h : p.ActsAs p' m)
    (cast : Cast) : (p.converting cast).ActsAs (p'.converting cast) m :=
  h.bind _

theorem Accessor.converting_foundBy (cast : Cast) (p : Program Value) :
    (foundBy .identity p).converting cast = foundBy cast p :=
  (Program.bind_assoc _ _ _).trans (congrArg _ (funext fun _ => rfl))

namespace Context

variable {ctx : Context}

theorem converting_missed (start : ProtoId) (a : Access) (cast : Cast) :
    (ctx.missed start a).converting cast = ctx.missed start a :=
  (Program.bind_assoc _ _ _).trans (congrArg _ (funext fun _ => rfl))

@[simp] theorem queries_missed (start : ProtoId) (a : Access)
    (answer : (q : Query) → Machine → Ending q.Answer) (m : Machine) :
    (ctx.missed start a).queries answer m = [] := by
  unfold missed traceMiss
  cases ctx.config.traceMisses <;> simp

/-- Casting is converting what the same access finds without a cast. -/
theorem BuiltIn.access_converting (hctx : ctx.BuiltIn) (start : ProtoId)
    {a : Access} (hchosen : ∀ cast, a.conversion cast = cast) (cast : Cast) (m : Machine) :
    (ctx.access start a cast).ActsAs ((ctx.access start a .identity).converting cast) m := by
  rcases hctx.access_cases start a m with hmiss | ⟨p, -, hfound⟩
  · have hconverted := (hmiss .identity).converting cast
    rw [converting_missed] at hconverted
    exact (hmiss cast).trans hconverted.symm
  · simp only [hchosen] at hfound
    have hconverted := (hfound .identity).converting cast
    rw [Accessor.converting_foundBy] at hconverted
    exact (hfound cast).trans hconverted.symm

end Context

theorem Accessor.queries_foundBy (answer : (q : Query) → Machine → Ending q.Answer) (cast : Cast)
    (p : Program Value) (m : Machine) :
    (foundBy cast p).queries answer m =
      p.queries answer m ++ (p.run answer m).continued fun v _ => cast.queries v := by
  simp [foundBy]

/-- The core realm has built-in capabilities only. -/
theorem Context.builtIn_core (hostObjectName : String) {host : Host} (converter : Converter)
    (config : Config) (hown : ∀ o ∈ host.objects, ∀ c, o.members = some c → c.BuiltIn) :
    (core hostObjectName host converter config).BuiltIn := by
  refine ⟨fun p hp c hc => ?_, hown⟩
  obtain ⟨role, rfl⟩ := Realm.exists_role hostObjectName hp
  have hmembers : (Builtin.members role).capability? = some c := hc
  cases role with
  | object => exact Option.some.inj hmembers ▸ .mapping
  | array => exact Option.some.inj hmembers ▸ .sequence
  | _ => cases hmembers

/-- Where all capabilities are built-in, dispatch and conversion factor: a read or call with a cast
acts as the one without, followed by one conversion of what is found. The same candidates are asked
for every cast. An access that misses asks nothing, and so never the converter; one that hits asks
it for the one conversion, after all that its source asks and does. A deletion is such an access
too, with the form for scripts as its cast. -/
theorem conversion_factors (ctx : Context) (hctx : ctx.BuiltIn) (start : ProtoId)
    (answer : (q : Query) → Machine → Ending q.Answer) (m : Machine) :
    (∀ this key cast, (ctx.readFrom start this key cast).ActsAs
      ((ctx.readFrom start this key .identity).converting cast) m) ∧
    (∀ this key args cast, (ctx.invokeFrom start this key args cast).ActsAs
      ((ctx.invokeFrom start this key args .identity).converting cast) m) ∧
    ∀ a : Access,
      (∀ cast, ((a.request cast).walk answer (ctx.candidates start (a.request cast)) m).asked =
        ((a.request .identity).walk answer (ctx.candidates start (a.request .identity)) m).asked) ∧
      ((∀ cast, (ctx.access start a cast).run answer m = (ctx.missed start a).run answer m ∧
          (ctx.access start a cast).queries answer m = []) ∨
        ∃ source, a.Source m.store source ∧ ∀ cast,
          ((ctx.access start a cast).run answer m =
            (source.run answer m).andThen fun v m =>
              ((a.conversion cast).ending answer v m).andThen fun w m => .returned (.found w) m) ∧
          (ctx.access start a cast).queries answer m =
            source.queries answer m ++
              (source.run answer m).continued fun v _ => (a.conversion cast).queries v) := by
  refine ⟨?_, ?_, fun a => ⟨?_, ?_⟩⟩
  · intro this key cast
    exact hctx.access_converting start (a := .read this key) (fun _ => rfl) cast m
  · intro this key args cast
    exact hctx.access_converting start (a := .invoke this key args) (fun _ => rfl) cast m
  · intro cast
    -- the candidates do not depend on the cast, and neither does which of them answers
    rw [Context.candidates_request start a cast .identity]
    exact a.asked_eq (hctx.candidates start _) answer m cast .identity
  · -- all candidates miss, or the first that does not gives what a source gives
    rcases hctx.access_cases start a m with hmiss | ⟨source, hsource, hfound⟩
    · left
      intro cast
      exact ⟨(hmiss cast).run answer, ((hmiss cast).queries answer).trans (by simp)⟩
    · refine .inr ⟨source, hsource, fun cast => ⟨?_, ?_⟩⟩
      · rw [(hfound cast).run, Accessor.run_foundBy]
      · rw [(hfound cast).queries, Accessor.queries_foundBy]

/-- A character in a list is found, and then widened to a text for scripts. -/
theorem conversion_factors_widening :
    let ctx := Context.core "HostObject" .empty .standard .standard
    let m : Machine := ⟨⟨#[[.char 'x']], #[]⟩, #[]⟩
    let array : ProtoId := ⟨1⟩
    ctx.BuiltIn ∧
      ctx.run 1 (ctx.readFrom array (.list ⟨0⟩) (.int 0) .identity) m =
        .returned (.found (.char 'x')) m ∧
      ctx.run 1 (ctx.readFrom array (.list ⟨0⟩) (.int 0) .toScript) m =
        .returned (.found (.string "x")) m := by
  intro ctx m array
  have hctx : ctx.BuiltIn := Context.builtIn_core _ _ _ (by simp [Host.empty])
  have hidentity : ctx.run 1 (ctx.readFrom array (.list ⟨0⟩) (.int 0) .identity) m =
      .returned (.found (.char 'x')) m := rfl
  have hfactor := (conversion_factors ctx hctx array (ctx.answer 1) m).1 (.list ⟨0⟩) (.int 0)
    .toScript
  refine ⟨hctx, hidentity, ?_⟩
  rw [Context.run] at hidentity ⊢
  rw [hfactor.run, Program.converting, Program.run_bind, hidentity]
  rfl

end ScriptRealm
