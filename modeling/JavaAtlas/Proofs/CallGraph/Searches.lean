import Mathlib.Data.List.Infix
import Mathlib.Data.List.TakeWhile
import Mathlib.Tactic.FinCases
import JavaAtlas.Proofs.CallGraph.Answers
import JavaAtlas.Proofs.Tools.Steps

/-!
# What a search finds

The pattern that a query is made into matches the texts that contain the query: every character of
a query stands for itself, up to the case of ASCII letters. So a search of an ingested dump gives
the methods on either side of a call whose type or name contains the query, every one once and in
the order of their code points, as many of them as are asked for.
-/

namespace JavaAtlas

namespace CallGraph

/-! ### Texts that contain a text -/

/-- How a character is read: the noncharacters at the end of the basic plane are not told from the
replacement character. -/
def legible (c : Char) : Char :=
  if c.toNat == 0xFFFE || c.toNat == 0xFFFF then '\uFFFD' else c

/-- A text as a search compares it. -/
def folded (s : List Char) : List Char := s.map fun c => (legible c).toLower

/-- Whether a text contains another one, as a search compares them. -/
def Contains (query text : String) : Prop := folded query.toList <:+: folded text.toList

instance (query text : String) : Decidable (Contains query text) :=
  inferInstanceAs (Decidable (folded query.toList <:+: folded text.toList))

/-! ### Patterns -/

variable {c : Char} {q s : List Char} {steps : List Wildcard}

lemma visible_of_no_null (h : '\x00' ∉ s) : visible s = s.map legible := by
  have hall : s.takeWhile (· != '\x00') = s :=
    List.takeWhile_eq_self_iff.mpr fun c hc => bne_iff_ne.mpr fun hnull => h (hnull ▸ hc)
  rw [visible, hall]
  rfl

/-- No other character is read as a mark of patterns. -/
lemma legible_ne {mark : Char} (hmark : mark.toNat < 0xFFFD) (hc : c ≠ mark) :
    legible c ≠ mark := by
  rw [legible]
  split
  · rintro rfl
    exact absurd hmark (by decide)
  · exact hc

/-- What a character is escaped to is read as a literal. -/
lemma wildcards_escapeText_singleton (c : Char) (s : List Char) :
    wildcards ((escapeText [c]).map legible ++ s) =
      (wildcards s).map (.literal (legible c) :: ·) := by
  by_cases hmark : c ∈ ['\\', '%', '_']
  · simp only [List.mem_cons, List.not_mem_nil, or_false] at hmark
    rcases hmark with rfl | rfl | rfl <;> rfl
  · simp only [List.mem_cons, List.not_mem_nil, or_false, not_or] at hmark
    obtain ⟨hescape, hrun, hone⟩ := hmark
    have hplain : escapeText [c] = [c] := by simp [escapeText, hescape, hrun, hone]
    rw [hplain, List.map_singleton, List.singleton_append, wildcards]
    · exact fun heq => absurd heq (legible_ne (by decide) hescape)
    · exact fun _ _ heq => absurd heq (legible_ne (by decide) hescape)
    · exact legible_ne (by decide) hrun
    · exact legible_ne (by decide) hone

/-- An escaped text is read as a run of literals. -/
lemma wildcards_escapeText (q rest : List Char) :
    wildcards ((escapeText q).map legible ++ rest) =
      (wildcards rest).map ((q.map legible).map .literal ++ ·) := by
  induction q with
  | nil => simp [escapeText]
  | cons c q ih =>
    have hcons : escapeText ([c] ++ q) = escapeText [c] ++ escapeText q := List.flatMap_append
    rw [List.singleton_append] at hcons
    rw [hcons, List.map_append, List.append_assoc, wildcards_escapeText_singleton, ih,
      Option.map_map]
    rfl

/-- A run of any length can stand for whatever is in front of what the other steps match. -/
lemma matchesSteps_anyRun :
    matchesSteps (.anyRun :: steps) s = true ↔ ∃ t, t <:+ s ∧ matchesSteps steps t = true := by
  induction s with
  | nil =>
    rw [matchesSteps]
    simp
  | cons c s ih =>
    rw [matchesSteps, Bool.or_eq_true, ih]
    constructor
    · rintro (h | ⟨t, ht, h⟩)
      · exact ⟨c :: s, List.suffix_rfl, h⟩
      · exact ⟨t, ht.trans (List.suffix_cons c s), h⟩
    · rintro ⟨t, ht, h⟩
      rcases List.suffix_cons_iff.mp ht with rfl | ht
      · exact .inl h
      · exact .inr ⟨t, ht, h⟩

/-- Literals match a text that begins with them. -/
lemma matchesSteps_literals :
    matchesSteps (q.map .literal ++ [.anyRun]) s = true ↔
      q.map Char.toLower <+: s.map Char.toLower := by
  induction q generalizing s with
  | nil =>
    have hrest : matchesSteps [.anyRun] s = true :=
      matchesSteps_anyRun.mpr ⟨[], by simp, by simp [matchesSteps]⟩
    simp [hrest]
  | cons c q ih =>
    cases s with
    | nil => simp [matchesSteps]
    | cons d s =>
      rw [List.map_cons, List.cons_append, matchesSteps, Bool.and_eq_true, ih, List.map_cons,
        List.map_cons, List.cons_prefix_cons, sameLetter, beq_iff_eq]

lemma no_null_containing (h : '\x00' ∉ q) : '\x00' ∉ containing q := by
  have hescaped : '\x00' ∉ escapeText q := by
    rw [escapeText, List.mem_flatMap]
    rintro ⟨c, hc, hmem⟩
    have hne : '\x00' ≠ c := fun heq => h (heq ▸ hc)
    split at hmem <;> simp [hne, escapeMark] at hmem
  simp [containing, hescaped]

lemma folded_eq (s : List Char) : folded s = (s.map legible).map Char.toLower := by
  rw [folded, List.map_map]
  rfl

/-- The pattern of a query matches the texts that contain the query. -/
lemma like_containing {query text : String} (hquery : '\x00' ∉ query.toList)
    (htext : '\x00' ∉ text.toList) :
    like (containing query.toList) text.toList = true ↔ Contains query text := by
  have hsteps : wildcards (visible (containing query.toList)) =
      some (.anyRun :: ((query.toList.map legible).map .literal ++ [.anyRun])) := by
    rw [visible_of_no_null (no_null_containing hquery), containing, List.map_cons, List.map_append]
    change wildcards ('%' :: ((escapeText query.toList).map legible ++ ['%'])) = _
    rw [wildcards, wildcards_escapeText]
    rfl
  rw [like, hsteps, visible_of_no_null htext, Contains, List.infix_iff_prefix_suffix, folded_eq,
    folded_eq]
  simp only [matchesSteps_anyRun, matchesSteps_literals, List.suffix_map_iff]
  constructor
  · rintro ⟨t, ht, hquery⟩
    exact ⟨_, hquery, t, ht, rfl⟩
  · rintro ⟨_, hquery, t, ht, rfl⟩
    exact ⟨t, ht, hquery⟩

/-! ### Searches among calls -/

variable {d : Disk} {db : Path} {calls : List Call} {query : String}

lemma sortKey_injective : Function.Injective sortKey := by
  rintro ⟨type, name, descriptor⟩ ⟨type', name', descriptor'⟩ h
  simpa [sortKey] using h

lemma mem_sides {m : MethodId} : m ∈ sides calls ↔ ∃ c ∈ calls, m = c.caller ∨ m = c.callee := by
  simp only [sides, List.mem_append, List.mem_map]
  grind

/-- The methods on either side of a call that a search finds. -/
def foundIn (calls : List Call) (query : String) : List MethodId :=
  sortedDistinct sortKey ((sides calls).filter (isLike (containing query.toList)))

/-- A search finds the methods whose type or name contains the query. -/
lemma mem_foundIn (hquery : '\x00' ∉ query.toList)
    (hnames : ∀ m ∈ sides calls, '\x00' ∉ m.type.toList ∧ '\x00' ∉ m.name.toList)
    {m : MethodId} : m ∈ foundIn calls query ↔
      (∃ c ∈ calls, m = c.caller ∨ m = c.callee) ∧
        (Contains query m.type ∨ Contains query m.name) := by
  rw [foundIn, mem_sortedDistinct, List.mem_filter, ← mem_sides]
  refine and_congr_right fun hm => ?_
  rw [isLike, Bool.or_eq_true, like_containing hquery (hnames m hm).1,
    like_containing hquery (hnames m hm).2]

lemma searchIn_eq_ok
    (hpattern : (String.ofList (containing query.toList)).utf8ByteSize ≤ maxPatternBytes)
    (limit : Int) :
    searchIn calls query limit =
      .ok ((if limit < 0 then foundIn calls query else (foundIn calls query).take limit.toNat).map
        fun m => ⟨m, none⟩) := by
  rw [searchIn, if_neg]
  · rfl
  · simp [Nat.not_lt.mpr hpattern]

lemma exec_searchMethods_fresh (h : Holds d db calls) (hfree : Unhindered d db) (query : String)
    {limit : Int} (hlimit : fits limit = true) :
    ((Store.searchMethods d (.str query) (.int limit)).exec (.fresh db)).1 =
      searchIn calls query limit := by
  have htext : (Json.str query).textFor "replace" = .ok query := rfl
  have hlimitOf : limitOf 5 (.int limit) = .ok limit := if_pos hlimit
  rw [Store.exec_searchMethods, htext, hlimitOf, exec_calls_fresh h hfree]
  rfl

/-! ### Searches by a tool -/

open Tools (Service callTool clampLimit listed)

lemma fits_clampLimit (n : Int) : fits (clampLimit n) = true := by
  rw [fits, Bool.and_eq_true, decide_eq_true_eq, decide_eq_true_eq, clampLimit, leastNumber,
    greatestNumber, maxRefs]
  omega

/-- A tool answers with what the search gives for a limit between one and a hundred. -/
lemma exec_callTool_search {args : Json} {limit : Int} {s : Service} {refs : List MethodRef}
    (hquery : args.member "query" (.str "") = .ok (.str query))
    (hlimit : args.member "limit" (.int defaultSearchLimit) = .ok (.int limit))
    (hsearch : ((Store.searchMethods s.disk (.str query) (.int (clampLimit limit))).exec
      s.graph).1 = .ok refs) (amb : Tools.Ambient) :
    ((callTool amb "mc_search_methods" args).exec s).1 =
      .ok (listed "methods" (refs.map MethodRef.toJson)) := by
  have hrequest : Tools.readRequest "mc_search_methods" args =
      .ok (.searchMethods (.str query) (clampLimit limit)) := by
    change (args.member "query" (.str "") >>= fun query =>
      args.member "limit" (.int defaultSearchLimit) >>= fun limit => limit.toInt >>= fun limit =>
        pure (Tools.Request.searchMethods query (clampLimit limit))) = _
    rw [hquery, hlimit]
    rfl
  have hgraph : ((Service.onGraph fun d =>
      Store.searchMethods d (.str query) (.int (clampLimit limit))).exec s).1 = .ok refs := hsearch
  rw [Tools.exec_callTool hrequest]
  change ((Tools.fromGraph _ _).exec s).1 = _
  rw [Tools.fromGraph, Action.exec_bind_of_ok (Action.exec_outcome ..), hgraph]
  rfl

/-- Methods in their order are told by which ones they are. -/
lemma eq_of_mem_iff {found methods : List MethodId}
    (hfound : found.Pairwise fun a b => Text.areBefore (sortKey a) (sortKey b) = true)
    (hmethods : methods.Pairwise fun a b => Text.areBefore (sortKey a) (sortKey b) = true)
    (h : ∀ m, m ∈ found ↔ m ∈ methods) : found = methods := by
  have hne : ∀ {a b}, Text.areBefore (sortKey a) (sortKey b) = true → a ≠ b :=
    fun hab heq => Text.ne_of_areBefore hab (congrArg sortKey heq)
  refine List.Perm.eq_of_pairwise (fun a b _ _ hab hba => ?_) hfound hmethods
    ((List.perm_ext_iff_of_nodup (hfound.imp hne) (hmethods.imp hne)).mpr h)
  rw [Text.areBefore_asymm hab] at hba
  cases hba

def twoLines : String := callLine "3" ++ "\n2\t2\td.E:f()\t(STA)x\uFFFD_y.D:e()\t4"

def twoCalls : List Call :=
  [⟨⟨"a.B", "c", "()"⟩, ⟨"d.E", "f", "()"⟩, some 3⟩,
    ⟨⟨"d.E", "f", "()"⟩, ⟨"x\uFFFD_y.D", "e", "()"⟩, some 4⟩]

lemma callsOf_twoLines : callsOf (.bytes twoLines.toUTF8) = twoCalls := by
  decide +kernel

set_option maxRecDepth 100000 in
lemma ingest_twoLines : ∃ w',
    (ingest 2 plainDump plainDb).exec (dumped twoLines []) = (.ok 2, w') ∧
      Unhindered w'.disk plainDb :=
  exists_unhindered (by decide +kernel)

end CallGraph

end JavaAtlas
