import Mathlib.Data.Set.Basic
import VantageNet.Services.Accounting

/-!
What the evaluation of a pattern comes to: whether it matches, the set of the ports and the
confidence. None of it depends on the order of the alternatives or of the conditions.
-/

namespace VantageNet.Services

open Inventory
open Scanning (PortPrecedes mem_sortedPorts pairwise_sortedPorts)

section reading

variable (library : Library) (params : DiscoverySessionServiceMatchParams)

def isGatewayAddress : Bool :=
  let gatewayIpsInSubnet := params.session.gatewayIps.filter params.baselineParams.subnet.base.cidr.contains
  let ip := params.baselineParams.interface.base.ipAddress
  decide (ip ∈ gatewayIpsInSubnet) || isLast1Or254 ip && gatewayIpsInSubnet.isEmpty

/-- The MAC address is known and the database names this vendor for it. -/
def isMadeBy (vendor : String) : Bool :=
  ((params.baselineParams.interface.base.macAddress.bind (fun mac => library.ouiDb.bind (fun lookupByMac => lookupByMac mac))).map
    (fun companyName => decide (library.normalize vendor = library.normalize companyName))).getD false

mutual

/-- The pattern as a Boolean formula over what is known of the host. -/
def Pattern.holds : Pattern → Bool
  | .anyOf patterns => anyHolds patterns
  | .allOf patterns => allHold patterns
  | .not pattern => !pattern.holds
  | .port portBase => params.serviceParams.unboundPorts.contains portBase.config
  | .endpoint portBase path matchString range =>
    params.baselineParams.endpointResponses.any (answersEndpoint library portBase path matchString range)
  | .header portBase header value range =>
    params.baselineParams.endpointResponses.any (answersHeader library portBase header value range)
  | .subnetIsType subnetType => params.baselineParams.subnet.base.subnetType = subnetType
  | .isGateway => isGatewayAddress params
  | .macVendor vendor => isMadeBy library params vendor
  | .custom constraintFunction _ _ _ _ => constraintFunction params
  | .dockerContainer => params.baselineParams.virtualization.isSome
  | .none => false

def anyHolds : List Pattern → Bool
  | [] => false
  | p :: rest => p.holds || anyHolds rest

def allHold : List Pattern → Bool
  | [] => true
  | p :: rest => p.holds && allHold rest

end

end reading

/-- Children change places, or an alternative that is a choice itself is replaced by its alternatives, anywhere in a pattern. -/
inductive Rearranged : Pattern → Pattern → Prop where
  | refl (p : Pattern) : Rearranged p p
  | symm {p q : Pattern} (h : Rearranged p q) : Rearranged q p
  | trans {p q r : Pattern} (h : Rearranged p q) (h' : Rearranged q r) : Rearranged p r
  | anyOf {ps qs : List Pattern} (h : ps.Perm qs) : Rearranged (.anyOf ps) (.anyOf qs)
  | allOf {ps qs : List Pattern} (h : ps.Perm qs) : Rearranged (.allOf ps) (.allOf qs)
  | inline (before inner after : List Pattern) :
    Rearranged (.anyOf (before ++ .anyOf inner :: after)) (.anyOf (before ++ inner ++ after))
  | inAnyOf (before after : List Pattern) {p q : Pattern} (h : Rearranged p q) :
    Rearranged (.anyOf (before ++ p :: after)) (.anyOf (before ++ q :: after))
  | inAllOf (before after : List Pattern) {p q : Pattern} (h : Rearranged p q) :
    Rearranged (.allOf (before ++ p :: after)) (.allOf (before ++ q :: after))
  | inNot {p q : Pattern} (h : Rearranged p q) : Rearranged (.not p) (.not q)

/-- The ports of a match, as a set, and its confidence. -/
abbrev Summary := Set PortConfig × MatchConfidence

def summarize (result : Except String MatchResult) : Option Summary :=
  result.toOption.map (fun r => ({p | p ∈ r.ports}, r.details.confidence))

section confidence

theorem rank_injective {a b : MatchConfidence} (h : a.rank = b.rank) : a = b := by
  cases a <;> cases b <;> first | rfl | exact absurd h nofun

/-- The greatest confidence, where there is one that is greater than `confidence`. -/
def strongest (confidence : MatchConfidence) (confidences : List MatchConfidence) : MatchConfidence :=
  confidences.foldl (fun best c => if best.rank < c.rank then c else best) confidence

theorem rank_strongest_le (confidence : MatchConfidence) (confidences : List MatchConfidence) (n : ℕ) :
    (strongest confidence confidences).rank ≤ n ↔ confidence.rank ≤ n ∧ ∀ c ∈ confidences, c.rank ≤ n := by
  induction confidences generalizing confidence with
  | nil => simp [strongest]
  | cons c rest ih =>
    rw [strongest, List.foldl_cons, ← strongest, ih, List.forall_mem_cons]
    split_ifs with hless
    · constructor
      · rintro ⟨hc, hrest⟩
        exact ⟨by omega, hc, hrest⟩
      · rintro ⟨-, hc, hrest⟩
        exact ⟨hc, hrest⟩
    · constructor
      · rintro ⟨hbest, hrest⟩
        exact ⟨hbest, by omega, hrest⟩
      · rintro ⟨hbest, -, hrest⟩
        exact ⟨hbest, hrest⟩

/-- Confidences that have the same upper bounds are the same. -/
theorem confidence_ext {a b : MatchConfidence} (h : ∀ n, a.rank ≤ n ↔ b.rank ≤ n) : a = b := by
  apply rank_injective
  have hab := (h b.rank).mpr le_rfl
  have hba := (h a.rank).mp le_rfl
  omega

def byRank (a b : MatchConfidence) : Bool := a.rank ≤ b.rank

theorem mergeSort_byRank_eq {as bs : List MatchConfidence} (h : as.Perm bs) : as.mergeSort byRank = bs.mergeSort byRank := by
  have hsorted (l : List MatchConfidence) : (l.mergeSort byRank).Pairwise (fun a b => a.rank ≤ b.rank) := by
    have htrans : ∀ a b c, byRank a b → byRank b c → byRank a c := by
      intro a b c hab hbc
      simp only [byRank, decide_eq_true_eq] at hab hbc ⊢
      omega
    have htotal : ∀ a b, byRank a b || byRank b a := by
      intro a b
      simp only [byRank, Bool.or_eq_true, decide_eq_true_eq]
      omega
    exact (List.pairwise_mergeSort htrans htotal l).imp (fun h => of_decide_eq_true h)
  have hperm := (List.mergeSort_perm as byRank).trans (h.trans (List.mergeSort_perm bs byRank).symm)
  exact hperm.eq_of_pairwise (fun a b _ _ hab hba => rank_injective (le_antisymm hab hba)) (hsorted as) (hsorted bs)

end confidence

section summaries

/-- What a choice comes to, by what its alternatives come to. -/
def anyOfSummary (summaries : List Summary) : Option Summary :=
  if summaries = [] then none
  else some ({p | ∃ s ∈ summaries, p ∈ s.1}, strongest .low (summaries.map Prod.snd))

/-- What conditions come to that are all met. -/
def allOfSummary (summaries : List Summary) : Summary :=
  let confidences := (summaries.map Prod.snd).mergeSort byRank
  ({p | ∃ s ∈ summaries, p ∈ s.1},
    if confidences.length > 3 then boosted (confidences.getLast?.getD .low) else confidences.getLast?.getD .low)

theorem anyOfSummary_congr {as bs : List Summary} (h : ∀ s, s ∈ as ↔ s ∈ bs) : anyOfSummary as = anyOfSummary bs := by
  have hempty : as = [] ↔ bs = [] := by simp only [List.eq_nil_iff_forall_not_mem, h]
  unfold anyOfSummary
  by_cases has : as = []
  · rw [if_pos has, if_pos (hempty.mp has)]
  · rw [if_neg has, if_neg (fun hbs => has (hempty.mpr hbs))]
    congr 2
    · simp only [h]
    · refine confidence_ext (fun n => ?_)
      simp only [rank_strongest_le, List.forall_mem_map, h]

theorem mem_ports_anyOfSummary {summaries : List Summary} {s : Summary} (h : anyOfSummary summaries = some s) (p : PortConfig) :
    p ∈ s.1 ↔ ∃ t ∈ summaries, p ∈ t.1 := by
  unfold anyOfSummary at h
  split_ifs at h
  cases h
  rfl

theorem rank_anyOfSummary_le {summaries : List Summary} {s : Summary} (h : anyOfSummary summaries = some s) (n : ℕ) :
    s.2.rank ≤ n ↔ 1 ≤ n ∧ ∀ t ∈ summaries, t.2.rank ≤ n := by
  unfold anyOfSummary at h
  split_ifs at h
  cases h
  rw [rank_strongest_le, List.forall_mem_map]
  rfl

/-- A choice among alternatives of a choice is one choice. -/
theorem anyOfSummary_inline (before inner after : List Summary) :
    anyOfSummary (before ++ ((anyOfSummary inner).toList ++ after)) = anyOfSummary (before ++ inner ++ after) := by
  cases hinner : anyOfSummary inner with
  | none =>
    have hnil : inner = [] := by
      unfold anyOfSummary at hinner
      split_ifs at hinner with h
      exact h
    rw [hnil, List.append_nil]
    rfl
  | some s =>
    have hne : inner ≠ [] := fun hnil => by rw [hnil] at hinner; cases hinner
    have hleft : before ++ ((some s).toList ++ after) ≠ [] := by simp
    have hright : before ++ inner ++ after ≠ [] := by simp [hne]
    rw [anyOfSummary, anyOfSummary, if_neg hleft, if_neg hright]
    congr 2
    · ext p
      simp only [Set.mem_ofPred_eq, List.mem_append, Option.mem_toList, Option.some.injEq, or_and_right, exists_or, exists_eq_left',
        mem_ports_anyOfSummary hinner, or_assoc]
    · refine confidence_ext (fun n => ?_)
      simp only [rank_strongest_le, List.forall_mem_map, List.mem_append, Option.mem_toList, Option.some.injEq, or_imp, forall_and,
        forall_eq', rank_anyOfSummary_le hinner]
      have hlow : MatchConfidence.low.rank = 1 := rfl
      rw [hlow]
      tauto

theorem allOfSummary_perm {as bs : List Summary} (h : as.Perm bs) : allOfSummary as = allOfSummary bs := by
  unfold allOfSummary
  rw [mergeSort_byRank_eq (h.map Prod.snd)]
  simp only [h.mem_iff]

end summaries

section results

theorem matched_eq_nil_iff (results : List (Except String MatchResult)) :
    matched results = [] ↔ results.filterMap summarize = [] := by
  simp only [matched, summarize, List.filterMap_eq_nil_iff, Option.map_eq_none_iff]

theorem filterMap_summarize (results : List (Except String MatchResult)) :
    results.filterMap summarize = (matched results).map (fun r => ({p | p ∈ r.ports}, r.details.confidence)) := by
  rw [matched, List.map_filterMap]
  rfl

theorem ports_collected (name : String) (results : List MatchResult) (confidence : MatchConfidence) (p : PortConfig) :
    p ∈ (collected name results confidence).ports ↔ ∃ r ∈ results, p ∈ r.ports := by
  rw [collected, mem_sortedPorts, List.mem_flatMap]

theorem summarize_matchesAnyOf (results : List (Except String MatchResult)) :
    summarize (matchesAnyOf results) = anyOfSummary (results.filterMap summarize) := by
  rw [matchesAnyOf, anyOfSummary]
  by_cases hnil : matched results = []
  · rw [if_pos (List.isEmpty_iff.mpr hnil), if_pos ((matched_eq_nil_iff results).mp hnil)]
    rfl
  · rw [if_neg (fun h => hnil (List.isEmpty_iff.mp h)), if_neg (fun h => hnil ((matched_eq_nil_iff results).mpr h)),
      filterMap_summarize, strongest, List.map_map, List.foldl_map]
    refine congrArg some (Prod.ext ?_ rfl)
    ext p
    simp only [Set.mem_ofPred_eq, ports_collected, List.mem_map, exists_exists_and_eq_and]

theorem summarize_matchesAllOf (results : List (Except String MatchResult)) :
    summarize (matchesAllOf results) =
      if results.all (fun r => r.toOption.isSome) then some (allOfSummary (results.filterMap summarize)) else none := by
  rw [matchesAllOf]
  split_ifs with hall
  · rw [filterMap_summarize, allOfSummary, List.map_map]
    refine congrArg some (Prod.ext ?_ rfl)
    ext p
    simp only [Set.mem_ofPred_eq, ports_collected, List.mem_map, exists_exists_and_eq_and]
  · rfl

end results

section evaluation

variable {library : Library} {registry : ServiceDefinitionRegistry} {params : DiscoverySessionServiceMatchParams}

theorem matchesOf_eq_map (patterns : List Pattern) :
    matchesOf library registry params patterns = patterns.map (Pattern.matches library registry params) := by
  induction patterns with
  | nil => rfl
  | cons p rest ih => rw [matchesOf, ih, List.map_cons]

theorem summarize_anyOf (patterns : List Pattern) :
    summarize (Pattern.matches library registry params (.anyOf patterns)) =
      anyOfSummary (patterns.filterMap (fun p => summarize (Pattern.matches library registry params p))) := by
  rw [Pattern.matches, summarize_matchesAnyOf, matchesOf_eq_map, List.filterMap_map]
  rfl

theorem summarize_allOf (patterns : List Pattern) :
    summarize (Pattern.matches library registry params (.allOf patterns)) =
      if patterns.all (fun p => (summarize (Pattern.matches library registry params p)).isSome) then
        some (allOfSummary (patterns.filterMap (fun p => summarize (Pattern.matches library registry params p))))
      else none := by
  rw [Pattern.matches, summarize_matchesAllOf, matchesOf_eq_map, List.filterMap_map, List.all_map]
  simp only [summarize, Option.isSome_map]
  rfl

theorem summarize_not (p : Pattern) :
    summarize (Pattern.matches library registry params (.not p)) =
      if (summarize (Pattern.matches library registry params p)).isSome then none else some (∅, .low) := by
  rw [Pattern.matches]
  cases Pattern.matches library registry params p with
  | ok r => rfl
  | error e =>
    simp only [matchesNot, withoutPorts, summarize, Except.toOption, Option.map_none, Option.map_some, Option.isSome_none,
      List.not_mem_nil]
    rfl

/-- No rearrangement of a pattern is noticed. -/
theorem summarize_rearranged {p q : Pattern} (h : Rearranged p q) :
    summarize (Pattern.matches library registry params p) = summarize (Pattern.matches library registry params q) := by
  induction h with
  | refl => rfl
  | symm _ ih => exact ih.symm
  | trans _ _ ih ih' => exact ih.trans ih'
  | anyOf hperm =>
    rw [summarize_anyOf, summarize_anyOf]
    exact anyOfSummary_congr (fun s => (hperm.filterMap _).mem_iff)
  | allOf hperm =>
    rw [summarize_allOf, summarize_allOf, hperm.all_eq, allOfSummary_perm (hperm.filterMap _)]
  | inline before inner after =>
    rw [summarize_anyOf, summarize_anyOf, List.filterMap_append, List.filterMap_append, List.filterMap_append,
      ← anyOfSummary_inline, ← summarize_anyOf inner]
    rw [List.filterMap_cons]
    cases summarize (Pattern.matches library registry params (.anyOf inner)) <;> rfl
  | inAnyOf before after _ ih =>
    simp only [summarize_anyOf, List.filterMap_append, List.filterMap_cons, ih]
  | inAllOf before after _ ih =>
    simp only [summarize_allOf, List.filterMap_append, List.filterMap_cons, List.all_append, List.all_cons, ih]
  | inNot _ ih => rw [summarize_not, summarize_not, ih]

section truth

/-- Whether a pattern matches. -/
def accepts (library : Library) (registry : ServiceDefinitionRegistry) (params : DiscoverySessionServiceMatchParams)
    (p : Pattern) : Bool := (Pattern.matches library registry params p).toOption.isSome

theorem isSome_matchesPort (portBase : PortType) : (matchesPort registry params portBase).toOption.isSome =
    params.serviceParams.unboundPorts.contains portBase.config := by
  rw [matchesPort, Bool.eq_iff_iff, List.contains_iff_mem]
  split
  · rename_i hnone
    exact iff_of_false nofun (fun hmem => by simpa using List.find?_eq_none.mp hnone _ hmem)
  · rename_i p hfind
    have hp : p = portBase.config := by simpa using List.find?_some hfind
    exact iff_of_true rfl (hp ▸ List.mem_of_find?_eq_some hfind)

theorem isSome_matchesHeader (portBase : Option PortType) (header value : String) (range : Option StatusRange) :
    (matchesHeader library params portBase header value range).toOption.isSome =
      params.baselineParams.endpointResponses.any (answersHeader library portBase header value range) := by
  rw [matchesHeader, ← List.isSome_find?]
  split <;> rename_i hfind <;> rw [hfind] <;> rfl

theorem isSome_matchesEndpoint (portBase : PortType) (path matchString : String) (range : Option StatusRange) :
    (matchesEndpoint library params portBase path matchString range).toOption.isSome =
      params.baselineParams.endpointResponses.any (answersEndpoint library portBase path matchString range) := by
  rw [matchesEndpoint, ← List.isSome_find?]
  split <;> rename_i hfind <;> rw [hfind] <;> rfl

theorem isSome_matchesMacVendor (vendor : String) :
    (matchesMacVendor library params vendor).toOption.isSome = isMadeBy library params vendor := by
  rw [matchesMacVendor, isMadeBy]
  cases params.baselineParams.interface.base.macAddress with
  | none => rfl
  | some mac =>
    cases library.ouiDb with
    | none => rfl
    | some lookupByMac =>
      cases hlookup : lookupByMac mac with
      | none => simp [hlookup, Except.toOption]
      | some companyName =>
        by_cases hname : library.normalize vendor = library.normalize companyName
        · simp [hlookup, hname, Except.toOption]
        · simp [hlookup, hname, Except.toOption]

theorem isSome_matchesGateway : (matchesGateway library params).toOption.isSome = isGatewayAddress params := by
  rw [matchesGateway, isGatewayAddress]
  split_ifs with hmem hlast
  · rw [decide_eq_true hmem]
    rfl
  · rw [hlast, Bool.or_true]
    rfl
  · rw [decide_eq_false hmem, Bool.eq_false_iff.mpr hlast]
    rfl

theorem isSome_matchesNot (result : Except String MatchResult) :
    (matchesNot result).toOption.isSome = !result.toOption.isSome := by
  cases result <;> rfl

theorem isSome_matchesAnyOf (results : List (Except String MatchResult)) :
    (matchesAnyOf results).toOption.isSome = results.any (fun r => r.toOption.isSome) := by
  rw [matchesAnyOf, Bool.eq_iff_iff, List.any_eq_true]
  split_ifs with hempty
  · refine iff_of_false nofun (fun ⟨r, hr, hsome⟩ => ?_)
    rw [List.isEmpty_iff, matched, List.filterMap_eq_nil_iff] at hempty
    rw [hempty r hr] at hsome
    cases hsome
  · obtain ⟨r, hr⟩ := List.exists_mem_of_ne_nil _ (fun h => hempty (List.isEmpty_iff.mpr h))
    exact iff_of_true rfl ⟨.ok r, mem_matched.mp hr, rfl⟩

theorem isSome_matchesAllOf (results : List (Except String MatchResult)) :
    (matchesAllOf results).toOption.isSome = results.all (fun r => r.toOption.isSome) := by
  rw [matchesAllOf]
  split_ifs with hall
  · exact hall.symm
  · exact (Bool.eq_false_iff.mpr hall).symm

mutual

theorem accepts_eq_holds : (p : Pattern) → accepts library registry params p = p.holds library params
  | .anyOf patterns => by
    rw [accepts, Pattern.matches, isSome_matchesAnyOf, Pattern.holds, any_matchesOf patterns]
  | .allOf patterns => by
    rw [accepts, Pattern.matches, isSome_matchesAllOf, Pattern.holds, all_matchesOf patterns]
  | .not pattern => by
    rw [accepts, Pattern.matches, isSome_matchesNot, Pattern.holds, ← accepts_eq_holds pattern, accepts]
  | .port portBase => isSome_matchesPort portBase
  | .endpoint .. => isSome_matchesEndpoint ..
  | .header .. => isSome_matchesHeader ..
  | .subnetIsType subnetType => by
    rw [accepts, Pattern.matches, matchesSubnetType, Pattern.holds]
    split_ifs with h <;> simp [h, Except.toOption]
  | .isGateway => isSome_matchesGateway
  | .macVendor vendor => isSome_matchesMacVendor vendor
  | .custom constraintFunction _ _ _ _ => by
    rw [accepts, Pattern.matches, Pattern.holds]
    cases constraintFunction params <;> rfl
  | .dockerContainer => by
    rw [accepts, Pattern.matches, matchesDockerContainer, Pattern.holds]
    cases params.baselineParams.virtualization.isSome <;> rfl
  | .none => rfl

theorem any_matchesOf : (patterns : List Pattern) → (matchesOf library registry params patterns).any
    (fun r => r.toOption.isSome) = anyHolds library params patterns
  | [] => rfl
  | p :: rest => by rw [matchesOf, List.any_cons, anyHolds, ← accepts_eq_holds p, ← any_matchesOf rest, accepts]

theorem all_matchesOf : (patterns : List Pattern) → (matchesOf library registry params patterns).all
    (fun r => r.toOption.isSome) = allHold library params patterns
  | [] => rfl
  | p :: rest => by rw [matchesOf, List.all_cons, allHold, ← accepts_eq_holds p, ← all_matchesOf rest, accepts]

end

theorem exists_matches_iff (p : Pattern) :
    (∃ result, Pattern.matches library registry params p = .ok result) ↔ p.holds library params = true := by
  have haccepts : accepts library registry params p = p.holds library params := accepts_eq_holds p
  rw [← haccepts, accepts]
  cases Pattern.matches library registry params p with
  | ok r => exact iff_of_true ⟨r, rfl⟩ rfl
  | error e => exact iff_of_false nofun nofun

end truth

end evaluation

/-- A pattern matches if and only if it is true, and no rearrangement of it changes whether it does, the ports or the
confidence. -/
theorem evaluation_boolean_and_order_free (library : Library) (registry : ServiceDefinitionRegistry)
    (params : DiscoverySessionServiceMatchParams) (p : Pattern) :
    ((∃ result, Pattern.matches library registry params p = .ok result) ↔ p.holds library params = true) ∧
      ∀ q, Rearranged p q →
        summarize (Pattern.matches library registry params p) = summarize (Pattern.matches library registry params q) :=
  ⟨exists_matches_iff p, fun _ h => summarize_rearranged h⟩

/-- A host with port 80 open and a page on it that reads `grafana`, at the turn of a service. -/
def grafanaHost : DiscoverySessionServiceMatchParams :=
  ⟨localSession, webHost "grafana", ⟨openPorts, [], [http]⟩⟩

def webPage : Pattern := .endpoint ⟨http, false⟩ "/" "grafana" Option.none

theorem alternatives_exchanged :
    (∃ result, Pattern.matches plainTexts (pages []) grafanaHost (.anyOf [.port ⟨http, false⟩, .not webPage]) = .ok result) ∧
      summarize (Pattern.matches plainTexts (pages []) grafanaHost (.anyOf [.port ⟨http, false⟩, .not webPage])) =
        summarize (Pattern.matches plainTexts (pages []) grafanaHost (.anyOf [.not webPage, .port ⟨http, false⟩])) := by
  have h := evaluation_boolean_and_order_free plainTexts (pages []) grafanaHost (.anyOf [.port ⟨http, false⟩, .not webPage])
  exact ⟨h.1.mpr (by decide), h.2 _ (.anyOf (.swap _ _ _))⟩

/-- The ports of a match have been found, and those of a choice or of conditions stand in order. -/
theorem match_reports_real_ports (library : Library) (registry : ServiceDefinitionRegistry)
    (params : DiscoverySessionServiceMatchParams) (p : Pattern) (hfree : p.customFree = true) {result : MatchResult}
    (h : Pattern.matches library registry params p = .ok result) :
    (∀ port ∈ result.ports, port ∈ params.serviceParams.unboundPorts ∨
      ∃ response ∈ params.baselineParams.endpointResponses, response.endpoint.portType = port) ∧
      ∀ patterns, p = .anyOf patterns ∨ p = .allOf patterns → result.ports.Pairwise PortPrecedes := by
  refine ⟨(reported_matches p hfree h).known, ?_⟩
  rintro patterns (rfl | rfl)
  · rw [Pattern.matches, matchesAnyOf] at h
    split_ifs at h
    cases h
    exact pairwise_sortedPorts _
  · rw [Pattern.matches, matchesAllOf] at h
    split_ifs at h
    cases h
    exact pairwise_sortedPorts _

theorem page_reports_real_ports :
    ∃ result, Pattern.matches plainTexts (pages []) grafanaHost (.allOf [.port ⟨http, false⟩, webPage]) = .ok result ∧
      (∀ port ∈ result.ports, port ∈ [http]) ∧ result.ports.Pairwise PortPrecedes := by
  have hholds : (Pattern.allOf [.port ⟨http, false⟩, webPage]).holds plainTexts grafanaHost = true := by decide
  obtain ⟨result, h⟩ : ∃ result, Pattern.matches plainTexts (pages []) grafanaHost
      (.allOf [.port ⟨http, false⟩, webPage]) = .ok result := (exists_matches_iff _).mpr hholds
  obtain ⟨hports, hsorted⟩ := match_reports_real_ports plainTexts (pages []) grafanaHost _ (by decide) h
  refine ⟨result, h, fun port hport => ?_, hsorted _ (.inr rfl)⟩
  rcases hports port hport with hopen | ⟨response, hresponse, rfl⟩
  · exact hopen
  · obtain rfl := List.mem_singleton.mp hresponse
    exact List.mem_singleton_self _

end VantageNet.Services
