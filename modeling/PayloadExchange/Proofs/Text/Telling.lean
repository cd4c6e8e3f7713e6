import PayloadExchange.Text.Characters

/-! # Texts that tell things apart

A rendering is read from its front, with more text behind it. Two texts tell a fact if, whatever
stands behind each, they can agree only where it holds, and what is behind them then agrees as well.
Such texts can be put one behind the other. Texts between quotes tell what was quoted: the escapes
do, and none of them starts with a quote.
-/

namespace PayloadExchange.Text

/-- Whatever stands behind the two, they are alike only where the fact holds and what is behind
    them is alike. -/
def Tell (a b : List Char) (fact : Prop) : Prop :=
  ∀ rest left, a ++ rest = b ++ left → fact ∧ rest = left

section

variable {a b front other : List Char} {fact next : Prop}

theorem tell_of (holds : fact) : Tell a a fact :=
  fun _ _ same => ⟨holds, List.append_cancel_left same⟩

theorem Tell.imp (tell : Tell a b fact) (implies : fact → next) : Tell a b next := by
  intro rest left same
  obtain ⟨holds, behind⟩ := tell rest left same
  exact ⟨implies holds, behind⟩

theorem Tell.append (first : Tell front other fact) (second : Tell a b next) :
    Tell (front ++ a) (other ++ b) (fact ∧ next) := by
  intro rest left same
  rw [List.append_assoc, List.append_assoc] at same
  obtain ⟨holds, behind⟩ := first _ _ same
  obtain ⟨also, behind⟩ := second rest left behind
  exact ⟨⟨holds, also⟩, behind⟩

theorem Tell.behind (front : List Char) (tell : Tell a b fact) :
    Tell (front ++ a) (front ++ b) fact :=
  ((tell_of trivial).append tell).imp And.right

theorem Tell.before (tell : Tell a b fact) (back : List Char) :
    Tell (a ++ back) (b ++ back) fact :=
  (tell.append (tell_of trivial)).imp And.left

theorem Tell.holds (tell : Tell a b fact) (same : a = b) : fact :=
  (tell [] [] (by rw [same])).1

theorem tell_of_ne {c d : Char} (apart : c ≠ d) : Tell (c :: a) (d :: b) fact :=
  fun _ _ same => absurd (List.cons.inj same).1 apart

/-- A token up to the first character that it does not accept. -/
theorem tell_token {accepts : Char → Bool} {mark : Char} (first : ∀ c ∈ a, accepts c = true)
    (second : ∀ c ∈ b, accepts c = true) (stops : accepts mark = false) :
    Tell (a ++ [mark]) (b ++ [mark]) (a = b) := by
  intro rest left same
  have token {chars : List Char} (each : ∀ c ∈ chars, accepts c = true) (behind : List Char) :
      (chars ++ [mark] ++ behind).takeWhile accepts = chars := by
    rw [List.append_assoc, List.takeWhile_append_of_pos each, List.singleton_append,
      List.takeWhile_cons_of_neg (Bool.eq_false_iff.1 stops), List.append_nil]
  have equal : a = b := by rw [← token first rest, same, token second left]
  subst equal
  exact ⟨rfl, List.append_cancel_left same⟩

/-- A sequence up to its end, each of whose items is told from every other one and from the end. -/
theorem tell_each {α : Type} {write : α → List Char} {stop : List Char} {items others : List α}
    (each : ∀ item ∈ items, ∀ other ∈ others, Tell (write item) (write other) (item = other))
    (stops : ∀ item rest left, write item ++ rest ≠ stop ++ left) :
    Tell (items.flatMap write ++ stop) (others.flatMap write ++ stop) (items = others) := by
  induction items generalizing others with
  | nil =>
      cases others with
      | nil => exact tell_of rfl
      | cons other others =>
          intro rest left same
          rw [List.flatMap_nil, List.nil_append, List.flatMap_cons, List.append_assoc,
            List.append_assoc] at same
          exact absurd same.symm (stops other _ rest)
  | cons item items ih =>
      cases others with
      | nil =>
          intro rest left same
          rw [List.flatMap_nil, List.nil_append, List.flatMap_cons, List.append_assoc,
            List.append_assoc] at same
          exact absurd same (stops item _ left)
      | cons other others =>
          have first := each item List.mem_cons_self other List.mem_cons_self
          have following := ih fun item member other among =>
            each item (List.mem_cons_of_mem _ member) other (List.mem_cons_of_mem _ among)
          rw [List.flatMap_cons, List.flatMap_cons, List.append_assoc, List.append_assoc]
          refine (first.append following).imp ?_
          rintro ⟨rfl, rfl⟩
          rfl

end

theorem forall_mem_toDigits {holds : Char → Prop} (each : ∀ digit < 16, holds (Nat.digitChar digit))
    (n : Nat) : ∀ c ∈ Nat.toDigits 16 n, holds c := by
  induction n using Nat.strongRecOn with
  | ind n ih =>
      rcases Nat.lt_or_ge n 16 with small | large
      · rw [Nat.toDigits_of_lt_base small]
        exact List.forall_mem_singleton.2 (each n small)
      · rw [Nat.toDigits_of_base_le (by decide) large, List.forall_mem_append]
        exact ⟨ih (n / 16) (by omega),
          List.forall_mem_singleton.2 (each (n % 16) (Nat.mod_lt n (by decide)))⟩

theorem toDigits_inj {m n : Nat} (same : Nat.toDigits 16 m = Nat.toDigits 16 n) : m = n := by
  have digits : ∀ a < 16, ∀ b < 16, Nat.digitChar a = Nat.digitChar b → a = b := by decide
  -- The length tells whether there is one digit; of more, the last one is split off.
  have longer {k : Nat} (large : 16 ≤ k) : 1 < (Nat.toDigits 16 k).length := by
    rw [Nat.toDigits_of_base_le (by decide) large, List.length_append]
    have := Nat.length_toDigits_pos (b := 16) (n := k / 16)
    simp only [List.length_singleton]
    omega
  induction m using Nat.strongRecOn generalizing n with
  | ind m ih =>
      rcases Nat.lt_or_ge m 16 with small | large <;> rcases Nat.lt_or_ge n 16 with low | high
      · rw [Nat.toDigits_of_lt_base small, Nat.toDigits_of_lt_base low] at same
        exact digits m small n low (List.cons.inj same).1
      · have := longer high
        rw [← same, Nat.toDigits_of_lt_base small] at this
        exact absurd this (Nat.lt_irrefl 1)
      · have := longer large
        rw [same, Nat.toDigits_of_lt_base low] at this
        exact absurd this (Nat.lt_irrefl 1)
      · rw [Nat.toDigits_of_base_le (by decide) large, Nat.toDigits_of_base_le (by decide) high]
          at same
        obtain ⟨front, last⟩ := List.append_inj' same rfl
        have upper := ih (m / 16) (by omega) front
        have lower := digits _ (Nat.mod_lt m (by decide)) _ (Nat.mod_lt n (by decide))
          (List.cons.inj last).1
        omega

/-- The characters with a mark of their own behind the backslash. -/
def marks : List (Char × Char) :=
  [('"', '"'), ('\\', '\\'), ('\n', 'n'), ('\r', 'r'), ('\t', 't'), ('\x00', '0')]

/-- The forms of a character between quotes. -/
inductive Escapes (c : Char) : List Char → Prop where
  | plain : c ≠ '"' → c ≠ '\\' → c ≠ '\n' → Escapes c [c]
  | mark {mark : Char} : (c, mark) ∈ marks → Escapes c ['\\', mark]
  | number : Escapes c (['\\', 'u', '{'] ++ (Nat.toDigits 16 c.toNat ++ ['}']))

theorem escapes_escape (c : Char) : Escapes c (escape c) := by
  unfold escape
  iterate 6
    split
    · next same =>
        subst same
        exact .mark (by decide)
  split
  · exact .number
  · next quote backslash newline _ _ _ _ => exact .plain quote backslash newline

theorem Escapes.tell {c d : Char} {a b : List Char} (first : Escapes c a) (second : Escapes d b) :
    Tell a b (c = d) := by
  have named : ∀ x ∈ marks, x.2 ≠ 'u' ∧ ∀ y ∈ marks, x.2 = y.2 → x.1 = y.1 := by decide
  cases first with
  | plain quote backslash =>
      cases second with
      | plain =>
          intro rest left same
          exact List.cons.inj same
      | mark => exact tell_of_ne backslash
      | number => exact tell_of_ne backslash
  | @mark mark known =>
      cases second with
      | plain quote backslash => exact tell_of_ne (Ne.symm backslash)
      | @mark other also =>
          intro rest left same
          obtain ⟨alike, behind⟩ := List.cons.inj (List.cons.inj same).2
          exact ⟨(named _ known).2 _ also alike, behind⟩
      | number => exact (tell_of_ne (named _ known).1).behind ['\\']
  | number =>
      cases second with
      | plain quote backslash => exact tell_of_ne (Ne.symm backslash)
      | mark known => exact (tell_of_ne (Ne.symm (named _ known).1)).behind ['\\']
      | number =>
          have digits (n : Nat) : ∀ c ∈ Nat.toDigits 16 n, (c != '}') = true :=
            forall_mem_toDigits (by decide) n
          refine (Tell.imp ?_ fun same => Char.toNat_inj.1 (toDigits_inj same)).behind _
          exact tell_token (digits c.toNat) (digits d.toNat) rfl

theorem Escapes.head_ne {c : Char} {chars : List Char} (escapes : Escapes c chars)
    (rest left : List Char) : chars ++ rest ≠ ['"'] ++ left := by
  intro same
  cases escapes with
  | plain quote => exact quote (List.cons.inj same).1
  | mark => exact absurd (List.cons.inj same).1 (by decide)
  | number => exact absurd (List.cons.inj same).1 (by decide)

/-- What was quoted can be told, and where the quotes end. -/
theorem tell_quoted (a b : String) : Tell (quoted a) (quoted b) (a = b) := by
  have inside : Tell (a.toList.flatMap escape ++ ['"']) (b.toList.flatMap escape ++ ['"'])
      (a.toList = b.toList) :=
    tell_each (fun c _ d _ => (escapes_escape c).tell (escapes_escape d))
      fun c => (escapes_escape c).head_ne
  exact (inside.behind ['"']).imp String.toList_inj.1

theorem Escapes.newline_not_mem {c : Char} {chars : List Char} (escapes : Escapes c chars) :
    '\n' ∉ chars := by
  intro member
  cases escapes with
  | plain _ _ newline => exact newline (List.mem_singleton.1 member).symm
  | @mark mark known =>
      have visible : ∀ x ∈ marks, '\n' ∉ ['\\', x.2] := by decide
      exact visible _ known member
  | number =>
      have digits : ∀ d ∈ Nat.toDigits 16 c.toNat, d ≠ '\n' :=
        forall_mem_toDigits (by decide) c.toNat
      simp only [List.mem_append] at member
      rcases member with front | digit | back
      · exact absurd front (by decide)
      · exact digits _ digit rfl
      · exact absurd back (by decide)

theorem newline_not_mem_quoted (text : String) : '\n' ∉ quoted text := by
  intro member
  rw [quoted, List.cons_append, List.mem_cons, List.mem_append] at member
  rcases member with front | inside | back
  · exact absurd front (by decide)
  · obtain ⟨c, -, escaped⟩ := List.mem_flatMap.1 inside
    exact (escapes_escape c).newline_not_mem escaped
  · exact absurd back (by decide)

end PayloadExchange.Text
