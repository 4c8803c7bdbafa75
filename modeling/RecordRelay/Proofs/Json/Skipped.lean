import RecordRelay.Proofs.Json.Values

/-!
# Passing a value

Whatever the value of a member that nobody asked for, it is **passed and nothing more**
(`IsValue.gives`).

The open brackets stand on a stack while a value is passed, so a value in brackets is not passed by
passing values: its items are passed in the same loop, with one bracket more on the stack. Hence the
induction on the value is about every stack. It says that the loop comes to the octet behind the
value with the stack as it was (`IsValue.isPassed`), and for brackets a second induction goes along
the items (`skipDue_items`).
-/

namespace RecordRelay.Json

variable {c : Cursor} {b : UInt8} {rest : Bytes}

/-! ## What is due -/

section Due

variable {start : Cursor} {bracket : Bracket} (brackets : List Bracket)

/-- What is due **behind a value**: nothing more, or what the open brackets ask for. -/
def settled (d : Cursor) (le : d.rest.length ≤ start.rest.length) :
    Except Error (Read Unit start) :=
  if brackets.isEmpty then .ok ⟨(), d, le⟩ else skipDue .next brackets d le

/-- Nothing is longer behind blanks and an octet. -/
theorem spaces_next_le (le : c.rest.length ≤ start.rest.length) :
    c.spaces.next.rest.length ≤ start.rest.length :=
  Nat.le_trans c.spaces.next_le (Nat.le_trans c.spaces_le le)

variable (le : c.rest.length ≤ start.rest.length)

/-- A value that is due begins with the next octet. -/
theorem skipDue_value_of_peek? (h : c.spaces.peek? = some b) :
    skipDue .value brackets c le
      = if b == 0x5B then skipDue .first (.list :: brackets) c.spaces.next (spaces_next_le le)
        else if b == 0x7B then
          skipDue .first (.object :: brackets) c.spaces.next (spaces_next_le le)
        else match skipScalar b c.spaces with
          | .error e => .error e
          | .ok r => settled brackets r.left (Nat.le_trans r.left_le (spaces_next_le le)) := by
  rw [skipDue.eq_def]
  dsimp only
  split
  case h_1 hnone =>
    rw [hnone] at h
    cases h
  case h_2 hsome =>
    rw [hsome] at h
    cases h
    rfl
  case h_3 hno => exact absurd h (hno b rfl)
  case h_4 hnone _ =>
    rw [hnone] at h
    cases h
  case h_5 hdue _ => cases hdue
  case h_6 hdue _ => cases hdue

/-- Behind an opening bracket the next octet closes it, or an item follows. -/
theorem skipDue_first_of_peek? (h : c.spaces.peek? = some b) :
    skipDue .first (bracket :: brackets) c le
      = if b == bracket.closing then settled brackets c.spaces.next (spaces_next_le le)
        else match skipName bracket c.spaces with
          | .error e => .error e
          | .ok r => skipDue .value (bracket :: brackets) r.left
              (Nat.le_trans r.left_le (Nat.le_trans c.spaces_le le)) := by
  rw [skipDue.eq_def]
  dsimp only
  split
  case h_1 hdue _ => cases hdue
  case h_2 hdue _ => cases hdue
  case h_3 hbrackets _ _ => cases hbrackets
  case h_4 hnone _ =>
    rw [hnone] at h
    cases h
  case h_5 hbrackets hsome =>
    rw [hsome] at h
    cases h
    cases hbrackets
    rfl
  case h_6 hdue _ _ => cases hdue

/-- Behind an item the next octet closes the bracket, or a comma and another item follow. -/
theorem skipDue_next_of_peek? (h : c.spaces.peek? = some b) :
    skipDue .next (bracket :: brackets) c le
      = if b == bracket.closing then settled brackets c.spaces.next (spaces_next_le le)
        else if b == 0x2C then
          match skipName bracket c.spaces.next with
          | .error e => .error e
          | .ok r => skipDue .value (bracket :: brackets) r.left
              (Nat.le_trans r.left_le (spaces_next_le le))
        else c.spaces.failNext bracket.unclosed := by
  rw [skipDue.eq_def]
  dsimp only
  split
  case h_1 hdue _ => cases hdue
  case h_2 hdue _ => cases hdue
  case h_3 hbrackets _ _ => cases hbrackets
  case h_4 hnone _ =>
    rw [hnone] at h
    cases h
  case h_5 hdue _ _ => cases hdue
  case h_6 hbrackets hsome =>
    rw [hsome] at h
    cases h
    cases hbrackets
    rfl

variable {blank : Bytes} (hblank : Blank blank)
include hblank

/-- **A bracket is opened**, and its first item is due. -/
theorem skipDue_opening (bracket : Bracket) (hc : c.rest = blank ++ bracket.opening :: rest) :
    ∃ d le', d.rest = rest ∧ skipDue .value brackets c le
      = skipDue .first (bracket :: brackets) d le' := by
  have hspaces := Cursor.spaces_rest hblank hc (by cases bracket <;> rfl)
  refine ⟨c.spaces.next, spaces_next_le le, Cursor.next_rest hspaces, ?_⟩
  rw [skipDue_value_of_peek? brackets le (Cursor.peek?_of_rest hspaces)]
  cases bracket <;> rfl

/-- **A scalar is passed.** -/
theorem skipDue_scalar {octets : Bytes} (hspace : isSpace b = false)
    (hopens : ∀ bracket : Bracket, (b == bracket.opening) = false)
    (hc : c.rest = blank ++ b :: octets)
    (hscalar : ∀ d : Cursor, d.rest = b :: octets → Gives (skipScalar b d) () rest) :
    ∃ d le', d.rest = rest ∧ skipDue .value brackets c le
      = settled brackets d le' := by
  have hspaces := Cursor.spaces_rest hblank hc hspace
  obtain ⟨read, hok, -, hrest⟩ := hscalar c.spaces hspaces
  refine ⟨read.left, Nat.le_trans read.left_le (spaces_next_le le), hrest, ?_⟩
  rw [skipDue_value_of_peek? brackets le (Cursor.peek?_of_rest hspaces), hok]
  have hlist : (b == 0x5B) = false := hopens .list
  have hobject : (b == 0x7B) = false := hopens .object
  rw [hlist, hobject]
  rfl

/-- **A bracket is closed** behind its last item. -/
theorem skipDue_closing (hc : c.rest = blank ++ bracket.closing :: rest) :
    ∃ d le', d.rest = rest ∧ skipDue .next (bracket :: brackets) c le
      = settled brackets d le' := by
  have hspaces := Cursor.spaces_rest hblank hc (by cases bracket <;> rfl)
  refine ⟨c.spaces.next, spaces_next_le le, Cursor.next_rest hspaces, ?_⟩
  rw [skipDue_next_of_peek? brackets le (Cursor.peek?_of_rest hspaces), if_pos (beq_self_eq_true _)]

/-- A bracket without items is closed. -/
theorem skipDue_empty (hc : c.rest = blank ++ bracket.closing :: rest) :
    ∃ d le', d.rest = rest ∧ skipDue .first (bracket :: brackets) c le
      = settled brackets d le' := by
  have hspaces := Cursor.spaces_rest hblank hc (by cases bracket <;> rfl)
  refine ⟨c.spaces.next, spaces_next_le le, Cursor.next_rest hspaces, ?_⟩
  rw [skipDue_first_of_peek? brackets le (Cursor.peek?_of_rest hspaces), if_pos (beq_self_eq_true _)]

/-- **A further item** stands behind a comma. -/
theorem skipDue_further {label : Bytes} (hlabel : IsLabel bracket label)
    (hc : c.rest = blank ++ 0x2C :: (label ++ rest)) :
    ∃ d le', d.rest = rest ∧ skipDue .next (bracket :: brackets) c le
      = skipDue .value (bracket :: brackets) d le' := by
  have hspaces := Cursor.spaces_rest hblank hc (by decide)
  obtain ⟨read, hok, -, hrest⟩ := hlabel.gives (Cursor.next_rest hspaces)
  refine ⟨read.left, Nat.le_trans read.left_le (spaces_next_le le), hrest, ?_⟩
  rw [skipDue_next_of_peek? brackets le (Cursor.peek?_of_rest hspaces),
    if_neg (by cases bracket <;> decide), if_pos (by decide), hok]

omit hblank

/-- **The first item** stands behind the bracket. In a list its blanks are passed with those behind
the bracket. -/
theorem skipDue_first {label before : Bytes} (hlabel : IsLabel bracket label)
    (hbefore : Blank before) {octets : Bytes} (hspace : isSpace b = false)
    (hcloses : (b == bracket.closing) = false)
    (hc : c.rest = label ++ (before ++ b :: octets)) :
    ∃ d le' blank', Blank blank' ∧ d.rest = blank' ++ b :: octets
      ∧ skipDue .first (bracket :: brackets) c le
        = skipDue .value (bracket :: brackets) d le' := by
  cases hlabel with
  | list =>
    have hspaces := Cursor.spaces_rest hbefore hc hspace
    refine ⟨c.spaces, Nat.le_trans c.spaces_le le, [], Blank.nil, hspaces, ?_⟩
    rw [skipDue_first_of_peek? brackets le (Cursor.peek?_of_rest hspaces), if_neg (by simpa using hcloses)]
    rfl
  | @object before' name after hbefore' hname hafter =>
    have hopen : c.rest
        = before' ++ 0x22 :: (name ++ 0x22 :: (after ++ [0x3A]) ++ (before ++ b :: octets)) := by
      rw [hc]
      simp only [List.append_assoc, List.cons_append]
    have hspaces := Cursor.spaces_rest hbefore' hopen (by decide)
    have hlabel : IsLabel .object ([] ++ 0x22 :: (name ++ 0x22 :: (after ++ [0x3A]))) :=
      .object Blank.nil hname hafter
    obtain ⟨read, hok, -, hrest⟩ := hlabel.gives hspaces
    refine ⟨read.left, Nat.le_trans read.left_le (Nat.le_trans c.spaces_le le), before, hbefore,
      hrest, ?_⟩
    rw [skipDue_first_of_peek? brackets le (Cursor.peek?_of_rest hspaces), if_neg (by decide), hok]

end Due

/-! ## Passing values -/

/-- A number does not go on with a blank. -/
theorem goesOn_of_isSpace (h : isSpace b = true) : goesOn b = false := by
  have hall : ∀ n : Fin 256, isSpace (UInt8.ofFin n) = true → goesOn (UInt8.ofFin n) = false := by
    decide +kernel
  exact hall b.toFin h

/-- Behind blanks a number goes on only if it does behind none. -/
theorem Blank.stops {blank : Bytes} (h : Blank blank) (hrest : Stops goesOn rest) :
    Stops goesOn (blank ++ rest) := by
  cases blank with
  | nil => exact hrest
  | cons b blank => exact .cons (goesOn_of_isSpace (h b List.mem_cons_self)) _

/-- A number does not go on with a comma or the end of a bracket. -/
theorem stops_further (pieces : List Bytes) (bracket : Bracket) (rest : Bytes) :
    Stops goesOn (pieces.flatMap (0x2C :: ·) ++ bracket.closing :: rest) := by
  cases pieces with
  | nil => exact .cons (by cases bracket <;> rfl) rest
  | cons => exact .cons rfl _

/-- Whether octets **are passed** as a value, in front of any rest and whatever brackets are open. -/
def IsPassed (octets : Bytes) : Prop :=
  ∀ {start c : Cursor} (brackets : List Bracket) {blank rest : Bytes}
    (le : c.rest.length ≤ start.rest.length), Blank blank → Stops goesOn rest →
    c.rest = blank ++ (octets ++ rest) →
    ∃ d le', d.rest = rest ∧ skipDue .value brackets c le = settled brackets d le'

/-- Items behind the first one are passed up to the end of their bracket. -/
theorem skipDue_items {start : Cursor} {bracket : Bracket} {brackets : List Bracket}
    {items : List Item} (label : ∀ i ∈ items, IsLabel bracket i.label)
    (blanks : ∀ i ∈ items, Blank i.before ∧ Blank i.after)
    (passed : ∀ i ∈ items, IsPassed i.value) {after : Bytes} (hafter : Blank after)
    (le : c.rest.length ≤ start.rest.length)
    (hc : c.rest = after ++ ((items.map Item.octets).flatMap (0x2C :: ·)
      ++ bracket.closing :: rest)) :
    ∃ d le', d.rest = rest ∧ skipDue .next (bracket :: brackets) c le
      = settled brackets d le' := by
  induction items generalizing c after with
  | nil => exact skipDue_closing brackets le hafter hc
  | cons i items ih =>
    obtain ⟨hlabel, label⟩ := List.forall_mem_cons.mp label
    obtain ⟨⟨hbefore, hbehind⟩, blanks⟩ := List.forall_mem_cons.mp blanks
    obtain ⟨hpassed, passed⟩ := List.forall_mem_cons.mp passed
    have hitem : c.rest = after ++ 0x2C :: (i.label ++ (i.before ++ (i.value ++ (i.after
        ++ ((items.map Item.octets).flatMap (0x2C :: ·) ++ bracket.closing :: rest))))) := by
      rw [hc]
      simp only [List.map_cons, List.flatMap_cons, Item.octets, List.cons_append,
        List.append_assoc]
    obtain ⟨d, led, hd, hstep⟩ := skipDue_further brackets le hafter hlabel hitem
    obtain ⟨e, lee, he, hvalue⟩ :=
      hpassed (bracket :: brackets) led hbefore (hbehind.stops (stops_further _ bracket rest)) hd
    rw [hstep, hvalue]
    exact ih label blanks passed hbehind lee he

/-- **A bracket is passed** if the values in it are. -/
theorem isPassed_bracket (bracket : Bracket) {inside : Bytes} {items : List Item}
    (hinside : Blank inside) (label : ∀ i ∈ items, IsLabel bracket i.label)
    (blanks : ∀ i ∈ items, Blank i.before ∧ Blank i.after)
    (value : ∀ i ∈ items, IsValue i.value) (passed : ∀ i ∈ items, IsPassed i.value) :
    IsPassed (bracket.opening :: (listed inside (items.map Item.octets) ++ [bracket.closing])) := by
  intro start c brackets blank rest le hblank hends hc
  have hopen : c.rest = blank ++ bracket.opening
      :: (listed inside (items.map Item.octets) ++ bracket.closing :: rest) := by
    rw [hc]
    simp only [List.cons_append, List.append_assoc, List.nil_append]
  obtain ⟨d, led, hd, hstep⟩ := skipDue_opening brackets le hblank bracket hopen
  rw [hstep]
  cases items with
  | nil => exact skipDue_empty brackets led hinside hd
  | cons i items =>
    obtain ⟨hlabel, label⟩ := List.forall_mem_cons.mp label
    obtain ⟨⟨hbefore, hbehind⟩, blanks⟩ := List.forall_mem_cons.mp blanks
    obtain ⟨hvalue, -⟩ := List.forall_mem_cons.mp value
    obtain ⟨hpassed, passed⟩ := List.forall_mem_cons.mp passed
    obtain ⟨b, tail, htail, hspace, hcloses⟩ := hvalue.exists_cons
    have hitem : d.rest = i.label ++ (i.before ++ b :: (tail ++ (i.after
        ++ ((items.map Item.octets).flatMap (0x2C :: ·) ++ bracket.closing :: rest)))) := by
      rw [hd, List.map_cons, listed, Item.octets, htail]
      simp only [List.cons_append, List.append_assoc]
    obtain ⟨e, lee, blank', hblank', he, hfirst⟩ := skipDue_first brackets led
      hlabel hbefore hspace (hcloses bracket) hitem
    rw [← List.cons_append, ← htail] at he
    obtain ⟨f, lef, hf, hsettled⟩ :=
      hpassed (bracket :: brackets) lee hblank' (hbehind.stops (stops_further _ bracket rest)) he
    rw [hfirst, hsettled]
    exact skipDue_items label blanks passed hbehind lef hf

/-- **Every value is passed**, whatever brackets are open. -/
theorem IsValue.isPassed {octets : Bytes} (h : IsValue octets) : IsPassed octets := by
  induction h with
  | word h =>
    intro start c brackets blank rest le hblank _ hc
    obtain ⟨hmark, hopens⟩ := mem_marks_of_mem_words h
    exact skipDue_scalar brackets le hblank (isSpace_of_mem_marks hmark).1 hopens hc
      fun d hd => skipScalar_word h hd
  | number h =>
    intro start c brackets blank rest le hblank hends hc
    obtain ⟨b, tail, rfl, hb⟩ := h.exists_cons
    have hspace : isSpace b = false ∧ ∀ bracket : Bracket, (b == bracket.opening) = false := by
      obtain hdigit | rfl := hb
      · obtain ⟨hspace, -, hne⟩ := isSpace_of_isDigit hdigit
        exact ⟨hspace, fun bracket => hne _ (by cases bracket <;> decide)⟩
      · exact ⟨rfl, fun bracket => by cases bracket <;> rfl⟩
    exact skipDue_scalar brackets le hblank hspace.1 hspace.2 hc
      fun d hd => skipScalar_number h rfl hends hd
  | @string contents h =>
    intro start c brackets blank rest le hblank _ hc
    exact skipDue_scalar brackets le hblank rfl (fun bracket => by cases bracket <;> rfl) hc
      fun d hd => skipScalar_string h
        (hd.trans (congrArg (0x22 :: ·) (List.append_assoc contents [0x22] rest)))
  | bracket bracket hinside label blanks value ih =>
    exact isPassed_bracket bracket hinside label blanks value ih

/-- **A value is passed and nothing more**, behind blanks. -/
theorem IsValue.gives {octets blank : Bytes} (h : IsValue octets) (hblank : Blank blank)
    (hends : Stops goesOn rest) (hc : c.rest = blank ++ (octets ++ rest)) :
    Gives (skipValue c) () rest := by
  obtain ⟨d, led, hd, hstep⟩ := h.isPassed [] c.le_refl hblank hends hc
  exact ⟨_, hstep, rfl, hd⟩

end RecordRelay.Json
