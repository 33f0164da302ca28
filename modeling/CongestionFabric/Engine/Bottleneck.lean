import CongestionFabric.Engine.Query
import CongestionFabric.Foundation.Argmax
import CongestionFabric.Foundation.Exact

/-!
Contract: which domain of a path `identify_bottleneck` names, with rates read as
exact numbers.

Owns the pressure of a domain, the loop of `identify_bottleneck` as a search for the
first maximum above a floor, and the exact condition under which the result is the
bottleneck of the path or names no domain.

Does not own: the cause and the explanation.
-/

namespace CongestionFabric

open Foundation

/-- The rates of the domain are numbers. -/
def CongestionDomain.ratesFinite {R : Type} [Arithmetic R] (domain : CongestionDomain R) : Bool :=
  Arithmetic.isFinite domain.offeredBps && Arithmetic.isFinite domain.servicedBps

namespace Impl

/-- The domains of a path that exist, in the order of the path. -/
def listed {R : Type} [Arithmetic R] (state : Impl R) (path : List CongestionDomainId) :
    List (CongestionDomain R) :=
  path.filterMap state.domains.find?

/-- What `identify_bottleneck` compares: the service deficit and the queued backlog. -/
def pressure (state : Impl Exact) (domain : CongestionDomain Exact) : ℚ :=
  domain.offeredBps.toRat - domain.servicedBps.toRat +
    (aggregateDomain domain state.flows).queuedBytes.toNat

/-- The result is the first domain of the path under the highest pressure, with that
pressure, if some pressure is not negative; else it names no domain and no deficit. -/
structure NamesBottleneck (state : Impl Exact) (path : List CongestionDomainId)
    (result : BottleneckResult Exact) : Prop where
  pressed : (∃ domain ∈ state.listed path, 0 ≤ state.pressure domain) →
    ∃ domain, IsFirstMax state.pressure (state.listed path) domain ∧
      result.domain = domain.ref ∧ result.deficitBps = .number (state.pressure domain)
  relaxed : (∀ domain ∈ state.listed path, state.pressure domain < 0) →
    result.domain.id = {} ∧ result.deficitBps = .number 0

variable {state : Impl Exact} {path : List CongestionDomainId}

/-- What the loop of `identify_bottleneck` has in its variable `best`. -/
private def Represents (state : Impl Exact) (best : BottleneckResult Exact) :
    Option (CongestionDomain Exact) → Prop
  | none => best.domain = {} ∧ best.deficitBps = .number (-1)
  | some domain => best.domain = domain.ref ∧ best.deficitBps = .number (state.pressure domain)

private theorem pressure_eq {domain : CongestionDomain Exact} (finite : domain.ratesFinite = true) :
    domain.offeredBps - domain.servicedBps +
        Arithmetic.ofUInt64 (aggregateDomain domain state.flows).queuedBytes =
      .number (state.pressure domain) := by
  simp only [CongestionDomain.ratesFinite, Bool.and_eq_true] at finite
  rw [← Exact.number_toRat finite.1, ← Exact.number_toRat finite.2, Exact.number_sub,
    Exact.ofUInt64_eq, Exact.number_add]
  rfl

private theorem represents_weigh (text : Exact → Bytes) {best : BottleneckResult Exact}
    {held : Option (CongestionDomain Exact)} {id : CongestionDomainId}
    {domain : CongestionDomain Exact} (same : state.Represents best held)
    (stored : state.domains.find? id = some domain) (finite : domain.ratesFinite = true) :
    state.Represents (state.weighBottleneck text best id)
      (keepBest state.pressure 0 held domain) := by
  unfold weighBottleneck
  simp only [stored, pressure_eq finite]
  cases held with
  | none =>
      obtain ⟨-, deficit⟩ := same
      rw [if_pos]
      · exact ⟨rfl, rfl⟩
      · right
        rw [deficit, Exact.zero_eq, Exact.number_lt]
        norm_num
  | some held =>
      obtain ⟨named, deficit⟩ := same
      rw [keepBest_some]
      simp only [deficit, Exact.zero_eq, gt_iff_lt, Exact.number_lt]
      split
      · exact ⟨rfl, rfl⟩
      · exact ⟨named, deficit⟩

/-- The loop over the path is the search over the domains that exist. -/
private theorem represents_foldl (text : Exact → Bytes)
    (finite : ∀ domain ∈ state.listed path, domain.ratesFinite = true)
    {best : BottleneckResult Exact} {held : Option (CongestionDomain Exact)}
    (same : state.Represents best held) :
    state.Represents (path.foldl (state.weighBottleneck text) best)
      ((state.listed path).foldl (keepBest state.pressure 0) held) := by
  induction path generalizing best held with
  | nil => exact same
  | cons id rest inductionHypothesis =>
      cases stored : state.domains.find? id with
      | none =>
          have skipped : state.listed (id :: rest) = state.listed rest := by
            simp [listed, stored]
          have unmoved : state.weighBottleneck text best id = best := by
            simp [weighBottleneck, stored]
          rw [skipped] at finite ⊢
          rw [List.foldl_cons, unmoved]
          exact inductionHypothesis finite same
      | some domain =>
          have taken : state.listed (id :: rest) = domain :: state.listed rest := by
            simp [listed, stored]
          rw [taken] at finite ⊢
          rw [List.foldl_cons, List.foldl_cons]
          refine inductionHypothesis (fun other member => ?_) (represents_weigh text same stored ?_)
          · exact finite other (List.mem_cons_of_mem _ member)
          · exact finite domain List.mem_cons_self

/-- For every state and path whose domains have rates that are numbers, the result is
the bottleneck of the path, or names no domain where there is none, if and only if
some pressure is not negative, or no domain of the path exists (or the last one that
does carries no identity). -/
theorem namesBottleneck_iff (text : Exact → Bytes) (state : Impl Exact)
    (path : List CongestionDomainId)
    (finite : ∀ domain ∈ state.listed path, domain.ratesFinite = true) :
    state.NamesBottleneck path (state.identifyBottleneck text path) ↔
      (∃ domain ∈ state.listed path, 0 ≤ state.pressure domain) ∨
        ∀ domain, (state.listed path).getLast? = some domain → domain.ref.id = {} := by
  have start : state.Represents { deficitBps := -1.0 } none := by
    refine ⟨rfl, ?_⟩
    rw [Exact.one_eq]
    rfl
  have same := represents_foldl text finite start
  have holds := holds_foldl state.pressure 0 (state.listed path)
  unfold identifyBottleneck
  dsimp only
  generalize path.foldl (state.weighBottleneck text) { deficitBps := -1.0 } = best at same ⊢
  generalize (state.listed path).foldl (keepBest state.pressure 0) none = held at same holds
  simp only [Exact.zero_eq]
  cases holds with
  | nothing empty =>
      obtain ⟨named, deficit⟩ := same
      rw [empty, deficit, if_pos (by rw [Exact.number_lt]; norm_num)]
      refine iff_of_true ⟨?_, fun _ => ⟨congrArg EntityRef.id named, rfl⟩⟩ (Or.inr (by simp))
      rintro ⟨domain, member, -⟩
      exact absurd (empty ▸ member) (by simp)
  | @maximum domain above first =>
      obtain ⟨named, deficit⟩ := same
      have member := first.mem
      rw [deficit, if_neg (by rw [Exact.number_lt]; exact above.not_gt)]
      refine iff_of_true ⟨fun _ => ⟨domain, first, named, deficit⟩, fun below => ?_⟩
        (Or.inl ⟨domain, member, above⟩)
      exact absurd above (below domain member).not_ge
  | @latest last below ending =>
      obtain ⟨named, deficit⟩ := same
      have member := List.mem_of_getLast? ending
      rw [deficit, if_pos (by rw [Exact.number_lt]; exact below last member)]
      constructor
      · intro names
        right
        intro domain isLast
        obtain rfl := Option.some.inj (ending.symm.trans isLast)
        rw [← (names.relaxed below).1]
        exact congrArg EntityRef.id named.symm
      · rintro (⟨domain, listed, above⟩ | nameless)
        · exact absurd above (below domain listed).not_ge
        · refine ⟨?_, fun _ => ⟨?_, rfl⟩⟩
          · rintro ⟨domain, listed, above⟩
            exact absurd above (below domain listed).not_ge
          · exact (congrArg EntityRef.id named).trans (nameless last ending)

end Impl

/-- Two domains, with 5 bytes per second offered to the first, 7 to the second, and
the same service rate. -/
private def twoRated (servicedBps : Exact) : Impl Exact where
  domains := ⟨[(⟨1⟩, { ref := ⟨⟨1⟩, ⟨1⟩⟩, offeredBps := 5.0, servicedBps }),
    (⟨2⟩, { ref := ⟨⟨2⟩, ⟨1⟩⟩, offeredBps := 7.0, servicedBps })],
    (by decide : ([⟨1⟩, ⟨2⟩] : List CongestionDomainId).Nodup)⟩

/-- The second domain is the bottleneck of a path of which the third does not exist. -/
theorem twoRated_bottleneck :
    ((twoRated 2.0).identifyBottleneck (fun _ => []) [⟨1⟩, ⟨2⟩, ⟨3⟩]).domain = ⟨⟨2⟩, ⟨1⟩⟩ ∧
      (twoRated 2.0).NamesBottleneck [⟨1⟩, ⟨2⟩, ⟨3⟩]
        ((twoRated 2.0).identifyBottleneck (fun _ => []) [⟨1⟩, ⟨2⟩, ⟨3⟩]) :=
  ⟨by decide +kernel, (Impl.namesBottleneck_iff _ (twoRated 2.0) [⟨1⟩, ⟨2⟩, ⟨3⟩]
    (by decide +kernel)).mpr (Or.inl (by decide +kernel))⟩

/-- With all domains within their capacity the last one is named. -/
theorem twoRated_named_without_bottleneck :
    ¬∀ (text : Exact → Bytes) (state : Impl Exact) (path : List CongestionDomainId),
      (∀ domain ∈ state.listed path, domain.ratesFinite = true) →
      state.NamesBottleneck path (state.identifyBottleneck text path) := by
  intro always
  have names := always (fun _ => []) (twoRated 9.0) [⟨1⟩, ⟨2⟩] (by decide +kernel)
  exact absurd (names.relaxed (by decide +kernel)).1 (by decide +kernel)

end CongestionFabric
