import Mathlib.Data.List.Basic
import Mathlib.Data.Nat.Find
import JavaAtlas.CallGraph.DumpLine
import JavaAtlas.Proofs.Pattern.Scan

/-!
# References to methods

Colons and parentheses may stand anywhere in a reference. Its parameters begin at the last opening
parenthesis, and its name behind the last colon that leaves a character for the name. The search
for the pattern finds this division and no other, and the parts put together are the reference.
-/

namespace JavaAtlas

namespace MethodId

def reference (m : MethodId) : List Char :=
  m.type.toList ++ ':' :: (m.name.toList ++ m.descriptor.toList)

def part (m : MethodId) : CallGraph.RefPart → String
  | .type => m.type
  | .name => m.name
  | .descriptor => m.descriptor

/-- A method that its reference can be divided into. A colon may end the name. -/
structure IsLegible (m : MethodId) : Prop where
  type : m.type.toList ≠ []
  name : m.name.toList ≠ []
  colon : ':' ∉ m.name.toList.dropLast
  descriptor : ∃ args, m.descriptor.toList = '(' :: (args ++ [')']) ∧ '(' ∉ args ∧ ')' ∉ args

end MethodId

namespace CallGraph

open Pattern

variable {s : List Char} {j k : Nat}

/-! ### The division of a reference -/

/-- The parameters begin at an offset: it has the last opening parenthesis, and the only closing
parenthesis behind it is the end of the text. -/
structure OpensArguments (s : List Char) (k : Nat) : Prop where
  last : s.getLast? = some ')'
  here : s[k]? = some '('
  opening : '(' ∉ s.drop (k + 1)
  closing : ')' ∉ (s.drop (k + 1)).dropLast

/-- A colon at an offset has a character in front of it and one between it and the parameters. -/
structure Separates (s : List Char) (k j : Nat) : Prop where
  here : s[j]? = some ':'
  front : 1 ≤ j
  room : j + 2 ≤ k

def IsReference (s : List Char) : Prop := ∃ k, OpensArguments s k ∧ ∃ j, Separates s k j

/-- The division of a reference, at the last colon that can separate. -/
structure Divides (s : List Char) (j k : Nat) : Prop where
  opens : OpensArguments s k
  separates : Separates s k j
  greatest : ∀ i, Separates s k i → i ≤ j

/-- The method with the parts before, between and behind two offsets. -/
def methodAt (s : List Char) (j k : Nat) : MethodId where
  type := String.ofList (s.take j)
  name := String.ofList ((s.take k).drop (j + 1))
  descriptor := String.ofList (s.drop k)

lemma exists_divides (h : IsReference s) : ∃ j k, Divides s j k := by
  classical
  obtain ⟨k, hopens, j, hj⟩ := h
  have hle : ∀ i, Separates s k i → i ≤ k := fun i hi => by
    have := hi.room
    omega
  exact ⟨Nat.findGreatest (Separates s k) k, k, hopens, Nat.findGreatest_spec (hle j hj) hj,
    fun i hi => Nat.le_findGreatest (hle i hi) hi⟩

/-- The last occurrence of a character. -/
lemma exists_last {c : Char} (h : c ∈ s) : ∃ a b, s = a ++ c :: b ∧ c ∉ b := by
  obtain ⟨a, b, hab, ha⟩ := List.eq_append_cons_of_mem (List.mem_reverse.mpr h)
  refine ⟨b.reverse, a.reverse, ?_, by simpa using ha⟩
  rw [← List.reverse_reverse s, hab]
  simp

lemma opensArguments_append {front args : List Char} (hopening : '(' ∉ args)
    (hclosing : ')' ∉ args) :
    OpensArguments (front ++ '(' :: (args ++ [')'])) front.length where
  last := by
    rw [List.getLast?_append, ← List.cons_append, List.getLast?_append]
    rfl
  here := by simp
  opening := by
    rw [List.drop_length_add_append]
    simpa using hopening
  closing := by
    rw [List.drop_length_add_append]
    simpa using hclosing

lemma separates_append {type name : List Char} (rest : List Char) (htype : type ≠ [])
    (hname : name ≠ []) :
    Separates (type ++ ':' :: (name ++ rest)) (type.length + 1 + name.length) type.length where
  here := by simp
  front := List.length_pos_iff.mpr htype
  room := by
    have := List.length_pos_iff.mpr hname
    omega

/-- The parameters of a text that the pattern matches may hold opening parentheses. -/
lemma isReference_append {type name args : List Char} (htype : type ≠ []) (hname : name ≠ [])
    (hclosing : ')' ∉ args) :
    IsReference (type ++ ':' :: (name ++ '(' :: (args ++ [')']))) := by
  obtain ⟨a, b, hab, hb⟩ := exists_last (s := '(' :: args) List.mem_cons_self
  have hargs : ')' ∉ b := by
    have hall : ')' ∉ '(' :: args := by simpa using hclosing
    rw [hab] at hall
    intro hmem
    exact hall (by simp [hmem])
  have hbehind : '(' :: (args ++ [')']) = a ++ '(' :: (b ++ [')']) := by
    rw [← List.cons_append, hab, List.append_assoc, List.cons_append]
  have hfront : type ++ ':' :: (name ++ '(' :: (args ++ [')'])) =
      (type ++ ':' :: (name ++ a)) ++ '(' :: (b ++ [')']) := by
    rw [hbehind]
    simp
  have hname' : name ++ a ≠ [] := by simp [hname]
  have hseparates := separates_append ('(' :: (b ++ [')'])) htype hname'
  rw [hfront]
  refine ⟨_, opensArguments_append hb hargs, type.length, ?_⟩
  have hlength : (type ++ ':' :: (name ++ a)).length = type.length + 1 + (name ++ a).length := by
    simp only [List.length_append, List.length_cons]
    omega
  rw [hlength, List.append_assoc, List.cons_append]
  exact hseparates

variable {m : MethodId}

lemma divides_reference (h : m.IsLegible) :
    Divides m.reference m.type.toList.length
      (m.type.toList.length + 1 + m.name.toList.length) where
  opens := by
    obtain ⟨args, hargs, hopening, hclosing⟩ := h.descriptor
    have hreference : m.reference =
        (m.type.toList ++ ':' :: m.name.toList) ++ '(' :: (args ++ [')']) := by
      simp [MethodId.reference, hargs]
    have hlength : (m.type.toList ++ ':' :: m.name.toList).length =
        m.type.toList.length + 1 + m.name.toList.length := by
      simp only [List.length_append, List.length_cons]
      omega
    rw [hreference, ← hlength]
    exact opensArguments_append hopening hclosing
  separates := separates_append _ h.type h.name
  greatest i hi := by
    by_contra hlt
    have hhere := hi.here
    have hroom := hi.room
    -- a separating colon further on would stand inside of the name
    obtain ⟨n, rfl⟩ : ∃ n, i = m.type.toList.length + (n + 1) :=
      ⟨i - m.type.toList.length - 1, by omega⟩
    have hn : n < m.name.toList.length - 1 := by omega
    rw [MethodId.reference, List.getElem?_append_right (by omega), Nat.add_sub_cancel_left,
      List.getElem?_cons_succ, List.getElem?_append_left (by omega)] at hhere
    refine h.colon (List.mem_iff_getElem?.mpr ⟨n, ?_⟩)
    rw [List.getElem?_dropLast, if_pos hn, hhere]

lemma methodAt_reference (m : MethodId) :
    methodAt m.reference m.type.toList.length
      (m.type.toList.length + 1 + m.name.toList.length) = m := by
  have hassoc : m.reference = (m.type.toList ++ ':' :: m.name.toList) ++ m.descriptor.toList := by
    simp [MethodId.reference]
  have hlength : (m.type.toList ++ ':' :: m.name.toList).length =
      m.type.toList.length + 1 + m.name.toList.length := by
    simp only [List.length_append, List.length_cons]
    omega
  have htype : m.reference.take m.type.toList.length = m.type.toList := List.take_left
  have hfront : m.reference.take (m.type.toList.length + 1 + m.name.toList.length) =
      m.type.toList ++ ':' :: m.name.toList := by rw [hassoc, ← hlength, List.take_left]
  have hdescriptor : m.reference.drop (m.type.toList.length + 1 + m.name.toList.length) =
      m.descriptor.toList := by rw [hassoc, ← hlength, List.drop_left]
  rw [methodAt, htype, hfront, hdescriptor, List.drop_length_add_append]
  simp

lemma drop_of_getElem? {c : Char} (h : s[k]? = some c) : s.drop k = c :: s.drop (k + 1) := by
  obtain ⟨hlt, rfl⟩ := List.getElem?_eq_some_iff.mp h
  exact List.drop_eq_getElem_cons hlt

lemma OpensArguments.drop_eq (h : OpensArguments s k) :
    s.drop k = '(' :: ((s.drop (k + 1)).dropLast ++ [')']) := by
  have hk := drop_of_getElem? h.here
  have hlast : (s.drop k).getLast? = some ')' := by
    obtain ⟨hlt, -⟩ := List.getElem?_eq_some_iff.mp h.here
    rw [List.getLast?_drop, if_neg (by omega), h.last]
  rw [hk] at hlast ⊢
  match hrest : s.drop (k + 1) with
  | [] => simp [hrest] at hlast
  | c :: rest =>
    rw [hrest, List.getLast?_cons_cons] at hlast
    rw [List.dropLast_append_getLast? _ hlast]

/-- The parts of a division are those of a method whose reference is divided. -/
lemma Divides.isLegible (h : Divides s j k) : (methodAt s j k).IsLegible where
  type := by
    obtain ⟨hlt, -⟩ := List.getElem?_eq_some_iff.mp h.separates.here
    have hfront := h.separates.front
    rw [methodAt, String.toList_ofList]
    exact List.ne_nil_of_length_pos (by rw [List.length_take]; omega)
  name := by
    obtain ⟨hlt, -⟩ := List.getElem?_eq_some_iff.mp h.opens.here
    have hroom := h.separates.room
    rw [methodAt, String.toList_ofList]
    exact List.ne_nil_of_length_pos (by rw [List.length_drop, List.length_take]; omega)
  colon := by
    rw [methodAt, String.toList_ofList]
    intro hmem
    obtain ⟨i, hi⟩ := List.mem_iff_getElem?.mp hmem
    rw [List.getElem?_dropLast] at hi
    split at hi
    · next hlt =>
      rw [List.length_drop, List.length_take] at hlt
      rw [List.getElem?_drop, List.getElem?_take_of_lt (by omega)] at hi
      have := h.greatest (j + 1 + i) ⟨hi, by omega, by omega⟩
      omega
    · cases hi
  descriptor := by
    rw [methodAt, String.toList_ofList, h.opens.drop_eq]
    exact ⟨_, rfl, fun hmem => h.opens.opening (List.dropLast_subset _ hmem), h.opens.closing⟩

lemma Divides.reference_eq (h : Divides s j k) : (methodAt s j k).reference = s := by
  obtain ⟨hlt, -⟩ := List.getElem?_eq_some_iff.mp h.opens.here
  have hroom := h.separates.room
  have hbehind : (s.take k).drop (j + 1) ++ s.drop k = s.drop (j + 1) := by
    rw [← List.drop_append_of_le_length (by rw [List.length_take]; omega),
      List.take_append_drop]
  calc (methodAt s j k).reference
      = s.take j ++ ':' :: ((s.take k).drop (j + 1) ++ s.drop k) := by
        simp [MethodId.reference, methodAt]
    _ = s.take j ++ s.drop j := by rw [hbehind, drop_of_getElem? h.separates.here]
    _ = s := List.take_append_drop j s

/-! ### The search for the division -/

def parametersShape : Pattern RefPart :=
  .part .descriptor (inOrder [char '(', .greedy (· != ')'), char ')'])

/-- The colon, the name and the parameters. -/
def nameShape : Pattern RefPart :=
  .seq (char ':') (.seq (.part .name (greedy1 inLine)) parametersShape)

lemma methodRef_eq : methodRef = .seq (.part .type (greedy1 inLine)) nameShape := rfl

variable {cur next : Cursor RefPart} {size : Nat}

lemma text_of_leads_parameters (h : Leads parametersShape cur next) :
    ∃ args, ')' ∉ args ∧ cur.rest = '(' :: (args ++ ')' :: next.rest) := by
  cases h with
  | part h =>
    cases h with
    | seq hopen h =>
      cases h with
      | seq hargs hclose =>
        cases hargs with
        | greedy hskips =>
          obtain ⟨args, hargs, -, -, hall⟩ := hskips.covers
          refine ⟨args, fun hmem => by simpa using hall _ hmem, ?_⟩
          rw [hopen.char, hargs, hclose.char]

lemma text_of_leads_name (h : Leads nameShape cur next) :
    ∃ name args, name ≠ [] ∧ ')' ∉ args ∧
      cur.rest = ':' :: (name ++ '(' :: (args ++ ')' :: next.rest)) := by
  cases h with
  | seq hcolon h =>
    cases h with
    | seq hname h =>
      cases hname with
      | part hname =>
        obtain ⟨name, hne, -, hname⟩ := hname.greedy1
        obtain ⟨args, hclosing, hargs⟩ := text_of_leads_parameters h
        have hargs' : _ = '(' :: (args ++ ')' :: next.rest) := hargs
        exact ⟨name, args, hne, hclosing, by rw [hcolon.char, hname, hargs']⟩

lemma isReference_of_leads (h : Leads methodRef cur next) (hend : next.rest = []) :
    IsReference cur.rest := by
  rw [methodRef_eq] at h
  cases h with
  | seq htype h =>
    cases htype with
    | part htype =>
      obtain ⟨type, htype_ne, -, htype⟩ := htype.greedy1
      obtain ⟨name, args, hname, hclosing, hbehind⟩ := text_of_leads_name h
      have hbehind' : _ = ':' :: (name ++ '(' :: (args ++ ')' :: next.rest)) := hbehind
      rw [htype, hbehind', hend]
      exact isReference_append htype_ne hname hclosing

lemma OpensArguments.le {i : Nat} (h : OpensArguments s k) (hi : s[i]? = some '(') : i ≤ k := by
  by_contra hlt
  refine h.opening (List.mem_iff_getElem?.mpr ⟨i - (k + 1), ?_⟩)
  rw [List.getElem?_drop, ← hi]
  congr 1
  omega

/-- No opening parenthesis comes behind the one of the parameters. -/
lemma OpensArguments.eq_nil {front t v : List Char} (h : OpensArguments s k) (hk : front.length = k)
    (hs : s = front ++ (t ++ '(' :: v)) : t = [] := by
  have hhere : s[front.length + t.length]? = some '(' := by simp [hs]
  have hle := h.le hhere
  exact List.eq_nil_of_length_eq_zero (by omega)

/-- No colon behind the one of the division has a name and parameters behind it. -/
lemma Divides.eq_nil {front t name v : List Char} (h : Divides s j k) (hj : front.length = j)
    (hname : name ≠ []) (hs : s = front ++ (t ++ ':' :: (name ++ '(' :: v))) : t = [] := by
  have hcolon : s[front.length + t.length]? = some ':' := by simp [hs]
  have hopening : s[(front ++ (t ++ ':' :: name)).length]? = some '(' := by
    have hassoc : s = (front ++ (t ++ ':' :: name)) ++ '(' :: v := by simp [hs]
    rw [hassoc, List.getElem?_append_right (Nat.le_refl _), Nat.sub_self, List.getElem?_cons_zero]
  have hle := h.opens.le hopening
  have hfront := h.separates.front
  have hlength := List.length_pos_iff.mpr hname
  simp only [List.length_append, List.length_cons] at hle
  have hgreatest := h.greatest (front.length + t.length) ⟨hcolon, by omega, by omega⟩
  exact List.eq_nil_of_length_eq_zero (by omega)

lemma takes_parameters {args : List Char} (hclosing : ')' ∉ args) :
    Takes size parametersShape (· = []) ('(' :: (args ++ [')'])) []
      [⟨.descriptor, [], '(' :: (args ++ [')'])⟩] := by
  have hargs : ∀ c ∈ args, (c != ')') = true := fun c hc => by
    simpa using ne_of_mem_of_not_mem hc hclosing
  have hopen : Takes size (char '(' : Pattern RefPart) anything ['('] (args ++ [')'] ++ []) [] :=
    takes_one (by decide)
  have hbody : Takes size (.greedy (· != ')') : Pattern RefPart) anything args ([')'] ++ []) [] :=
    takes_greedy hargs (by simp)
  have hclose : Takes size (char ')' : Pattern RefPart) (· = []) [')'] [] [] :=
    takes_one (by decide)
  exact (hopen.seq (hbody.seq hclose)).part .descriptor

/-- The search divides the reference of a legible method into its parts. -/
lemma takes_methodRef (h : m.IsLegible) (hline : '\n' ∉ m.reference) :
    ∃ ms, Takes size methodRef (· = []) m.reference [] ms ∧
      ∀ label, Mark.text? ms label = some (m.part label).toList := by
  obtain ⟨args, hargs, -, hclosing⟩ := h.descriptor
  have hdivides := divides_reference h
  have hinside : ∀ c ∈ m.reference, inLine c = true := fun c hc => by
    simpa [inLine] using ne_of_mem_of_not_mem hc hline
  have hparameters : Takes size parametersShape (· = []) m.descriptor.toList []
      [⟨.descriptor, [], m.descriptor.toList⟩] := by
    rw [hargs]
    exact takes_parameters hclosing
  -- behind the name there is no opening parenthesis but the first one
  have hname : Takes size (.part RefPart.name (greedy1 inLine)) (fun u => ∃ v, u = '(' :: v)
      m.name.toList (m.descriptor.toList ++ []) [⟨.name, [], m.name.toList⟩] := by
    refine (takes_greedy1_of h.name (fun c hc => hinside c ?_) ?_).part RefPart.name
    · simp [MethodId.reference, hc]
    · rintro t u htu hne - ⟨v, rfl⟩
      rw [List.append_nil] at htu
      have hfront : (m.type.toList ++ ':' :: m.name.toList).length =
          m.type.toList.length + 1 + m.name.toList.length := by
        simp only [List.length_append, List.length_cons]
        omega
      refine hne (hdivides.opens.eq_nil hfront (v := v) ?_)
      rw [← htu]
      simp [MethodId.reference]
  -- behind the type there is no colon that separates but the first one
  have htype : Takes size (.part RefPart.type (greedy1 inLine))
      (fun u => ∃ name v, name ≠ [] ∧ u = ':' :: (name ++ '(' :: v))
      m.type.toList ([':'] ++ (m.name.toList ++ m.descriptor.toList) ++ [])
      [⟨.type, [], m.type.toList⟩] := by
    refine (takes_greedy1_of h.type (fun c hc => hinside c ?_) ?_).part RefPart.type
    · simp [MethodId.reference, hc]
    · rintro t u htu hne - ⟨name, v, hname, rfl⟩
      rw [List.append_nil] at htu
      refine hne (hdivides.eq_nil rfl hname (v := v) ?_)
      rw [← htu]
      rfl
  have hcolon : Takes size (char ':' : Pattern RefPart) anything [':']
      (m.name.toList ++ m.descriptor.toList ++ []) [] := takes_one (by decide)
  refine ⟨_, htype.seq_of (hcolon.seq (hname.seq_of hparameters ?_)) ?_, ?_⟩
  · intro cur next hleads _
    obtain ⟨args, -, hrest⟩ := text_of_leads_parameters hleads
    exact ⟨_, hrest⟩
  · intro cur next hleads _
    obtain ⟨name, args, hne, -, hrest⟩ := text_of_leads_name hleads
    exact ⟨name, _, hne, hrest⟩
  · intro label
    cases label <;> simp [MethodId.part, Mark.after]

/-- The kind of a call. -/
structure IsKind (kind : List Char) : Prop where
  ne_nil : kind ≠ []
  capital : ∀ c ∈ kind, 'A' ≤ c ∧ c ≤ 'Z'

def kindReference (kind ref : List Char) : List Char := '(' :: (kind ++ ')' :: ref)

def IsCalleeReference (s : List Char) : Prop :=
  ∃ kind ref, IsKind kind ∧ s = kindReference kind ref ∧ IsReference ref

lemma takes_calleeRef {kind : List Char} (hkind : IsKind kind) (h : m.IsLegible)
    (hline : '\n' ∉ m.reference) :
    ∃ ms, Takes size calleeRef (· = []) (kindReference kind m.reference) [] ms ∧
      ∀ label, Mark.text? ms label = some (m.part label).toList := by
  obtain ⟨ms, (hmethod : Takes size methodRef _ _ _ ms), hms⟩ := takes_methodRef h hline
  have hopen : Takes size (char '(' : Pattern RefPart) anything ['(']
      (kind ++ ([')'] ++ m.reference) ++ []) [] := takes_one (by decide)
  have hletters : Takes size (greedy1 fun c => 'A' ≤ c && c ≤ 'Z' : Pattern RefPart) anything kind
      ([')'] ++ m.reference ++ []) [] := by
    refine takes_greedy1 hkind.ne_nil (fun c hc => ?_) (by simp)
    simpa using hkind.capital c hc
  have hclose : Takes size (char ')' : Pattern RefPart) anything [')'] (m.reference ++ []) [] :=
    takes_one (by decide)
  refine ⟨_, hopen.seq (hletters.seq (hclose.seq hmethod)), fun label => ?_⟩
  simp only [List.append_nil, Mark.text?_after, hms]

lemma kind_of_leads (h : Leads calleeRef cur next) (hend : next.rest = []) :
    IsCalleeReference cur.rest := by
  cases h with
  | seq hopen h =>
    cases h with
    | seq hletters h =>
      cases h with
      | seq hclose hmethod =>
        obtain ⟨kind, hne, hall, hkind⟩ := hletters.greedy1
        refine ⟨kind, _, ⟨hne, fun c hc => by simpa using hall c hc⟩, ?_,
          isReference_of_leads hmethod hend⟩
        rw [hopen.char, hkind, hclose.char, kindReference]

/-! ### References read -/

lemma methodOf?_of_takes {shape : Pattern RefPart} {ms : List (Mark RefPart)}
    (h : Takes s.length shape (· = []) s [] ms)
    (hms : ∀ label, Mark.text? ms label = some (m.part label).toList) :
    methodOf? shape s = some m := by
  have htext : ∀ label, (Match.of [] s [] ms).text label = (m.part label).toList := fun label => by
    rw [Match.text_of h.inside, hms]
    rfl
  rw [methodOf?, matchAll?_of h]
  simp [htext, MethodId.part]

lemma leads_of_methodOf? {shape : Pattern RefPart} (h : methodOf? shape s = some m) :
    ∃ next : Cursor RefPart, Leads shape (.ofText s) next ∧ next.rest = [] := by
  obtain ⟨found, hfound, -⟩ := Option.bind_eq_some_iff.mp h
  exact leads_of_matchAll? hfound

/-- What is divided is the reference of a legible method. -/
lemma exists_divides_iff :
    (∃ j k, Divides s j k ∧ m = methodAt s j k) ↔ m.IsLegible ∧ s = m.reference := by
  constructor
  · rintro ⟨j, k, hdivides, rfl⟩
    exact ⟨hdivides.isLegible, hdivides.reference_eq.symm⟩
  · rintro ⟨hlegible, rfl⟩
    exact ⟨_, _, divides_reference hlegible, (methodAt_reference m).symm⟩

lemma IsReference.exists_legible (h : IsReference s) :
    ∃ m : MethodId, m.IsLegible ∧ s = m.reference := by
  obtain ⟨j, k, hdivides⟩ := exists_divides h
  exact ⟨_, exists_divides_iff.mp ⟨j, k, hdivides, rfl⟩⟩

/-- A legible method is read from its reference, and nothing else is read. -/
theorem methodOf?_methodRef_iff (hline : '\n' ∉ s) :
    methodOf? methodRef s = some m ↔ m.IsLegible ∧ s = m.reference := by
  have hread : ∀ m : MethodId, m.IsLegible → s = m.reference → methodOf? methodRef s = some m := by
    rintro m hlegible rfl
    obtain ⟨ms, htakes, hms⟩ := takes_methodRef hlegible hline
    exact methodOf?_of_takes htakes hms
  constructor
  · intro h
    obtain ⟨next, hleads, hend⟩ := leads_of_methodOf? h
    obtain ⟨m', hlegible, hs⟩ := (isReference_of_leads hleads hend).exists_legible
    cases h.symm.trans (hread m' hlegible hs)
    exact ⟨hlegible, hs⟩
  · rintro ⟨hlegible, hs⟩
    exact hread m hlegible hs

/-- A called method is read from its reference with a kind in front. -/
theorem methodOf?_calleeRef_iff (hline : '\n' ∉ s) :
    methodOf? calleeRef s = some m ↔
      m.IsLegible ∧ ∃ kind, IsKind kind ∧ s = kindReference kind m.reference := by
  have hread : ∀ (m : MethodId) (kind : List Char), m.IsLegible → IsKind kind →
      s = kindReference kind m.reference → methodOf? calleeRef s = some m := by
    rintro m kind hlegible hkind rfl
    have hline' : '\n' ∉ m.reference := fun hmem => hline (by simp [kindReference, hmem])
    obtain ⟨ms, htakes, hms⟩ := takes_calleeRef hkind hlegible hline'
    exact methodOf?_of_takes htakes hms
  constructor
  · intro h
    obtain ⟨next, hleads, hend⟩ := leads_of_methodOf? h
    obtain ⟨kind, ref, hkind, hs, href⟩ := kind_of_leads hleads hend
    obtain ⟨m', hlegible, rfl⟩ := href.exists_legible
    cases h.symm.trans (hread m' kind hlegible hkind hs)
    exact ⟨hlegible, kind, hkind, hs⟩
  · rintro ⟨hlegible, kind, hkind, hs⟩
    exact hread m kind hlegible hkind hs

end CallGraph

end JavaAtlas
