import EpicFlow.Escalation

/-!
# Redacted text keeps no secret

`Redact.sanitize` replaces every credential in a text by `[REDACTED]`, scanning left to right,
then writes the home directory as `~`. Each pass could in principle make a new secret: a
prefix such as `GH_TOKEN=` kept before the replacement of what followed it, or a blank after
`GH_TOKEN=` taken away with the home directory. This module shows that neither happens when the
home directory does not start with a blank and holds no `~`: what `sanitize` gives holds no
secret (`Redact.Clean`) and no home directory, so sanitizing it again changes nothing.

The argument is one fact about where a secret can start (`Redact.secretAt_neutral`). Both
passes put in a character that no secret can use (`Redact.Neutral`: `[` and `~`) where the
text had a character that is not blank (the first letter of a secret, the first character of
the home directory). A secret that starts before that point in the new text would have started
there in the old one: no literal of a secret matches the new character, a character class that
takes it also takes the old one, and a bearer token's blanks stop at it as they did before.

A home directory that starts with a blank is different: `GH_TOKEN= y` holds no secret, but once
the blank is written `~` it reads as the assignment `GH_TOKEN=~y` (`blank_home_makes_secret`).

Main statements:

* `Redact.redactChars_clean`: the first pass leaves no secret.
* `Redact.clean_replaceList`, `Text.not_infix_replaceList`: the second keeps that, and leaves
  no home directory.
* `sanitize_hides_secrets`: sanitized text, and every issue of an escalation message, holds no
  secret and no home directory, and sanitizing is idempotent.
-/

set_option autoImplicit false

namespace EpicFlow.Redact

/-! ### Where secrets start -/

/-- No secret starts anywhere in the characters. -/
def Clean (cs : List Char) : Prop := ∀ suf, suf <:+ cs → secretAt suf = none

/-- A character that no secret can use: not blank, not a letter or digit, and none of the
symbols that literals or token characters hold. -/
def Neutral (x : Char) : Prop :=
  Text.isBlank x = false ∧ isAlnumFolded x = false ∧ x ≠ '-' ∧ x ≠ '_' ∧ x ≠ '.' ∧ x ≠ '='

instance (x : Char) : Decidable (Neutral x) := inferInstanceAs (Decidable (_ ∧ _))

theorem neutral_bracket : Neutral '[' := by decide

theorem neutral_tilde : Neutral '~' := by decide

theorem orElse_isSome (a b : Option (List Char)) : (a <|> b).isSome = (a.isSome || b.isSome) := by
  cases a <;> rfl

/-- A body starts with a character of its class, and runs to the first character outside it. -/
theorem run_cons (p : Char → Bool) (y : Char) (ys : List Char) :
    run p (y :: ys) = if p y then some (ys.dropWhile p) else none := by
  unfold run
  by_cases hy : p y = true
  · have hsplit := List.takeWhile_append_dropWhile (p := p) (l := ys)
    have hdrop : ys.drop (ys.takeWhile p).length = ys.dropWhile p := by
      calc ys.drop (ys.takeWhile p).length
          = (ys.takeWhile p ++ ys.dropWhile p).drop (ys.takeWhile p).length := by rw [hsplit]
        _ = ys.dropWhile p := List.drop_left
    simp [hy, hdrop]
  · simp [hy]

theorem run_nil (p : Char → Bool) : run p [] = none := rfl

/-- A literal matched in the front of a text stays matched when more text follows. -/
theorem matchLit_append {u r : List Char} (w : List Char) :
    ∀ {lit : List Char}, matchLit lit u = some r → matchLit lit (u ++ w) = some (r ++ w) := by
  induction u with
  | nil =>
    intro lit h
    cases lit with
    | nil => cases h; rfl
    | cons l ls => cases h
  | cons y u ih =>
    intro lit h
    cases lit with
    | nil => cases h; rfl
    | cons l ls =>
      simp only [List.cons_append, matchLit] at h ⊢
      split at h
      · rw [if_pos ‹_›]
        exact ih h
      · cases h

/-- A literal none of whose characters the character `x` folds to is matched before `x`. -/
theorem matchLit_before {x : Char} {w r : List Char} :
    ∀ {lit u : List Char}, (∀ l ∈ lit, foldsTo x l = false) → matchLit lit (u ++ x :: w) = some r →
      ∃ r₀, matchLit lit u = some r₀ ∧ r = r₀ ++ x :: w
  | [], u, _, h => ⟨u, rfl, by cases h; rfl⟩
  | l :: ls, [], hx, h => by
    simp only [List.nil_append, matchLit, hx l List.mem_cons_self] at h
    cases h
  | l :: ls, y :: u, hx, h => by
    simp only [List.cons_append, matchLit] at h ⊢
    split at h
    · rw [if_pos ‹_›]
      exact matchLit_before (fun l' hl' => hx l' (List.mem_cons_of_mem l hl')) h
    · cases h

/-- The characters the literals of secrets are written with: lower-case letters, `-`, `_`, `=`. -/
def litChars : List Char := "abcdefghijklmnopqrstuvwxyz-_=".toList

/-- The characters of a literal are in `litChars` when a Boolean test, settled by evaluation,
says so. -/
theorem forall_mem_litChars {lit : List Char} (h : lit.all litChars.contains = true) :
    ∀ l ∈ lit, l ∈ litChars := by
  intro l hl
  simpa using List.all_eq_true.1 h l hl

/-- A character that is no letter or digit, folded or not, is its own lower case. -/
theorem toLower_of_not_alnum {x : Char} (halnum : isAlnumFolded x = false) :
    x.toLower = x ∧ ¬(97 ≤ x.toNat ∧ x.toNat ≤ 122) ∧ x.toNat ≠ 0x212A ∧ x.toNat ≠ 0x17F := by
  simp only [isAlnumFolded, Char.isAlphanum] at halnum
  delta Char.isAlpha Char.isUpper Char.isLower at halnum
  simp only [Char.isDigit, Bool.or_eq_false_iff, Bool.and_eq_false_imp, Bool.or_eq_true, Bool.and_eq_true,
    decide_eq_true_eq, decide_eq_false_iff_not, beq_eq_false_iff_ne, ne_eq] at halnum
  obtain ⟨⟨hcls, hk⟩, hs⟩ := halnum
  have hup : ¬(65 ≤ x.toNat ∧ x.toNat ≤ 90) := by
    rintro ⟨h1, h2⟩
    have := hcls (Or.inl (Or.inl ⟨h1, h2⟩))
    omega
  have hlo : ¬(97 ≤ x.toNat ∧ x.toNat ≤ 122) := by
    rintro ⟨h1, h2⟩
    have := hcls (Or.inl (Or.inr ⟨h1, h2⟩))
    omega
  refine ⟨?_, hlo, hk, hs⟩
  unfold Char.toLower
  rw [dif_neg]
  rintro ⟨h1, h2⟩
  exact hup ⟨h1, h2⟩

/-- A character that is no letter or digit, folded or not, and none of `-`, `_`, `=`, folds to
no character of a literal. -/
theorem foldsTo_of_not_alnum {x l : Char} (halnum : isAlnumFolded x = false) (hdash : x ≠ '-')
    (hunder : x ≠ '_') (heq : x ≠ '=') (hl : l ∈ litChars) : foldsTo x l = false := by
  obtain ⟨hlow, hlo, hk, hs⟩ := toLower_of_not_alnum halnum
  have hl' : (97 ≤ l.toNat ∧ l.toNat ≤ 122) ∨ l = '-' ∨ l = '_' ∨ l = '=' := by
    -- checked letter by letter through a Boolean test, which evaluation settles
    have hall : litChars.all (fun l => decide ((97 ≤ l.toNat ∧ l.toNat ≤ 122) ∨ l = '-' ∨ l = '_' ∨
        l = '=')) = true := by decide
    simpa using List.all_eq_true.1 hall l hl
  simp only [foldsTo, hlow, Bool.or_eq_false_iff, Bool.and_eq_false_imp, beq_eq_false_iff_ne, ne_eq]
  refine ⟨⟨fun hxl => ?_, fun _ => hk⟩, fun _ => hs⟩
  subst hxl
  rcases hl' with hr | rfl | rfl | rfl
  · exact hlo hr
  · exact hdash rfl
  · exact hunder rfl
  · exact heq rfl

theorem foldsTo_neutral {x l : Char} (hx : Neutral x) (hl : l ∈ litChars) : foldsTo x l = false :=
  foldsTo_of_not_alnum hx.2.1 hx.2.2.1 hx.2.2.2.1 hx.2.2.2.2.2 hl

/-- A blank is no letter or digit. -/
theorem isAlnumFolded_of_blank {c : Char} (hc : Text.isBlank c = true) : isAlnumFolded c = false := by
  simp only [Text.isBlank, Bool.or_eq_true, Bool.and_eq_true, decide_eq_true_eq, beq_iff_eq] at hc
  simp only [isAlnumFolded, Char.isAlphanum]
  delta Char.isAlpha Char.isUpper Char.isLower
  simp only [Char.isDigit, Bool.or_eq_false_iff, Bool.and_eq_false_imp, Bool.or_eq_true, Bool.and_eq_true,
    decide_eq_true_eq, decide_eq_false_iff_not, beq_eq_false_iff_ne, ne_eq]
  refine ⟨⟨fun h => ?_, by omega⟩, by omega⟩
  rcases h with ((⟨h1, h2⟩ | ⟨h1, h2⟩) | ⟨h1, h2⟩)
  · have : 65 ≤ c.toNat := h1
    have : c.toNat ≤ 90 := h2
    omega
  · have : 97 ≤ c.toNat := h1
    have : c.toNat ≤ 122 := h2
    omega
  · have : 48 ≤ c.toNat := h1
    have : c.toNat ≤ 57 := h2
    omega

/-- Text at which no pattern's literal matches starts no secret. -/
theorem secretAt_eq_none {cs : List Char} (h₁ : matchLit "sk-ant-".toList cs = none)
    (h₂ : matchLit "ghp_".toList cs = none) (h₃ : matchLit "gho_".toList cs = none)
    (h₄ : matchLit "github_pat_".toList cs = none)
    (h₅ : matchLit "anthropic_api_key=".toList cs = none) (h₆ : matchLit "gh_token=".toList cs = none)
    (h₇ : matchLit "github_token=".toList cs = none) (h₈ : matchLit "bearer".toList cs = none) :
    secretAt cs = none := by
  unfold secretAt
  simp only [h₁, h₂, h₃, h₄, h₅, h₆, h₇, h₈, Option.bind_none]
  rfl

/-- A character that folds to no first letter of a literal starts no secret. -/
theorem secretAt_of_head {c : Char} (cs : List Char) (hs : foldsTo c 's' = false)
    (hg : foldsTo c 'g' = false) (ha : foldsTo c 'a' = false) (hb : foldsTo c 'b' = false) :
    secretAt (c :: cs) = none :=
  secretAt_eq_none (by simp [matchLit, hs]) (by simp [matchLit, hg]) (by simp [matchLit, hg])
    (by simp [matchLit, hg]) (by simp [matchLit, ha]) (by simp [matchLit, hg]) (by simp [matchLit, hg])
    (by simp [matchLit, hb])

/-- A secret starts with a character that is not blank. -/
theorem secretAt_head {c : Char} {cs r : List Char} (h : secretAt (c :: cs) = some r) :
    Text.isBlank c = false := by
  cases hc : Text.isBlank c with
  | false => rfl
  | true =>
    have halnum := isAlnumFolded_of_blank hc
    have hfold : ∀ l ∈ litChars, foldsTo c l = false := fun l hl =>
      foldsTo_of_not_alnum halnum (by rintro rfl; cases hc) (by rintro rfl; cases hc)
        (by rintro rfl; cases hc) hl
    rw [secretAt_of_head cs (hfold _ (by decide)) (hfold _ (by decide)) (hfold _ (by decide))
      (hfold _ (by decide))] at h
    cases h

/-- A match that reads on past a literal keeps working when the neutral character `x` is
replaced by `h`, as long as what reads on past the literal does. -/
theorem bind_before {x h : Char} {w w' : List Char} {k : List Char → Option (List Char)}
    (hk : ∀ r₀, (k (r₀ ++ x :: w)).isSome → (k (r₀ ++ h :: w')).isSome) {lit : List Char}
    (hx : ∀ l ∈ lit, foldsTo x l = false) (u : List Char) :
    ((matchLit lit (u ++ x :: w)).bind k).isSome → ((matchLit lit (u ++ h :: w')).bind k).isSome := by
  intro hs
  obtain ⟨r, hr, hkr⟩ : ∃ r, matchLit lit (u ++ x :: w) = some r ∧ (k r).isSome := by
    cases hm : matchLit lit (u ++ x :: w) with
    | none => rw [hm] at hs; cases hs
    | some r => rw [hm] at hs; exact ⟨r, rfl, hs⟩
  obtain ⟨r₀, hr₀, rfl⟩ := matchLit_before hx hr
  rw [matchLit_append _ hr₀]
  exact hk r₀ hkr

/-- The body of a secret starts where it did when its class takes `h` whenever it takes `x`. -/
theorem run_before {p : Char → Bool} {x h : Char} {w w' : List Char} (hp : p x = true → p h = true) :
    ∀ r₀, (run p (r₀ ++ x :: w)).isSome → (run p (r₀ ++ h :: w')).isSome
  | [] => by
    simp only [List.nil_append, run_cons]
    cases hpx : p x
    · simp
    · simp [hp hpx]
  | y :: r => by
    simp only [List.cons_append, run_cons]
    cases p y <;> simp

/-- The first character after a run of blanks is the same, or is `x` itself, when `x` is not
blank. -/
theorem afterBlanks_before {q : Char → Bool} {x h : Char} {w w' : List Char}
    (hxb : Text.isBlank x = false) (hq : q x = false) :
    ∀ r, (run q ((r ++ x :: w).dropWhile Text.isBlank)).isSome →
      (run q ((r ++ h :: w').dropWhile Text.isBlank)).isSome
  | [] => by simp [List.dropWhile_cons, hxb, run_cons, hq]
  | z :: r => by
    simp only [List.cons_append, List.dropWhile_cons]
    cases hz : Text.isBlank z
    · simp only [Bool.false_eq_true, if_false, run_cons]
      cases q z <;> simp
    · simpa using afterBlanks_before hxb hq r

/-- A bearer token's blanks and body read the same up to the neutral character `x`. -/
theorem bearer_before {q : Char → Bool} {x h : Char} {w w' : List Char}
    (hxb : Text.isBlank x = false) (hq : q x = false) :
    ∀ r₀, ((run Text.isBlank (r₀ ++ x :: w)).bind (run q)).isSome →
      ((run Text.isBlank (r₀ ++ h :: w')).bind (run q)).isSome
  | [] => by simp [run_cons, hxb]
  | y :: r => by
    simp only [List.cons_append, run_cons]
    cases hy : Text.isBlank y
    · simp
    · simpa using afterBlanks_before hxb hq r

/-- **Where a secret can start.** Writing a neutral character `x` where the text had a character
`h` that is not blank makes no new secret: one that starts before `x` started before `h`. -/
theorem secretAt_neutral {x h : Char} {w w' : List Char} (hx : Neutral x) (hh : Text.isBlank h = false)
    (u : List Char) : (secretAt (u ++ x :: w)).isSome → (secretAt (u ++ h :: w')).isSome := by
  obtain ⟨hxb, hxa, hdash, hunder, hdot, -⟩ := id hx
  -- a literal is matched before `x`, and a class that takes `x` is that of a value
  have hlit : ∀ lit : List Char, (∀ l ∈ lit, l ∈ litChars) → ∀ l ∈ lit, foldsTo x l = false :=
    fun _ hsub l hl => foldsTo_neutral hx (hsub l hl)
  have hcls : ∀ p : Char → Bool, (p x = true → p h = true) → ∀ lit, (∀ l ∈ lit, l ∈ litChars) →
      ((matchLit lit (u ++ x :: w)).bind (run p)).isSome →
        ((matchLit lit (u ++ h :: w')).bind (run p)).isSome :=
    fun _ hp lit hsub => bind_before (run_before hp) (hlit lit hsub) u
  have hnone : ∀ p : Char → Bool, p x = false → p x = true → p h = true := by
    intro p hp hpx
    rw [hp] at hpx
    cases hpx
  have hvalue : (!Text.isBlank x) = true → (!Text.isBlank h) = true := fun _ => by simp [hh]
  unfold secretAt
  simp only [orElse_isSome, Option.bind_assoc, Bool.or_eq_true]
  rintro (hs | hs | hs | hs | hs | hs | hs | hs)
  · exact Or.inl (hcls _ (hnone _ (by simp [hxa, hdash, hunder])) _ (forall_mem_litChars (by decide)) hs)
  · exact Or.inr (Or.inl (hcls _ (hnone _ hxa) _ (forall_mem_litChars (by decide)) hs))
  · exact Or.inr (Or.inr (Or.inl (hcls _ (hnone _ hxa) _ (forall_mem_litChars (by decide)) hs)))
  · exact Or.inr (Or.inr (Or.inr (Or.inl (hcls _ (hnone _ (by simp [hxa, hunder])) _ (forall_mem_litChars (by decide)) hs))))
  · exact Or.inr (Or.inr (Or.inr (Or.inr (Or.inl (hcls _ hvalue _ (forall_mem_litChars (by decide)) hs)))))
  · exact Or.inr (Or.inr (Or.inr (Or.inr (Or.inr (Or.inl (hcls _ hvalue _ (forall_mem_litChars (by decide)) hs))))))
  · exact Or.inr (Or.inr (Or.inr (Or.inr (Or.inr (Or.inr (Or.inl (hcls _ hvalue _ (forall_mem_litChars (by decide)) hs)))))))
  · -- a bearer token: its blanks stop at `x` or before, and its body does not take `x`
    refine Or.inr (Or.inr (Or.inr (Or.inr (Or.inr (Or.inr (Or.inr ?_))))))
    exact bind_before (bearer_before hxb (by simp [hxa, hdash, hunder, hdot])) (hlit _ (forall_mem_litChars (by decide))) u hs

/-! ### Text with no secret -/

theorem clean_nil : Clean [] := by
  intro suf hsuf
  rw [List.suffix_nil.1 hsuf]
  rfl

theorem Clean.cons {c : Char} {cs : List Char} (hc : secretAt (c :: cs) = none) (h : Clean cs) :
    Clean (c :: cs) := by
  intro suf hsuf
  rcases List.suffix_cons_iff.1 hsuf with rfl | hsuf
  · exact hc
  · exact h suf hsuf

theorem Clean.of_suffix {cs t : List Char} (h : Clean cs) (ht : t <:+ cs) : Clean t :=
  fun suf hsuf => h suf (hsuf.trans ht)

/-- `out` is `cs`, or `cs` with the neutral character `x` written from some point on, where `cs`
had a character that is not blank. -/
def Covers (x : Char) (cs out : List Char) : Prop :=
  out = cs ∨ ∃ u h t w, cs = u ++ h :: t ∧ Text.isBlank h = false ∧ out = u ++ x :: w

theorem Covers.cons {x c : Char} {cs out : List Char} (h : Covers x cs out) :
    Covers x (c :: cs) (c :: out) := by
  rcases h with rfl | ⟨u, h, t, w, rfl, hh, rfl⟩
  · exact Or.inl rfl
  · exact Or.inr ⟨c :: u, h, t, w, rfl, hh, rfl⟩

/-- A character kept in front of what covers the rest starts no secret, when it started none. -/
theorem Covers.keep {x c : Char} {cs out : List Char} (hx : Neutral x) (hcov : Covers x cs out)
    (hnone : secretAt (c :: cs) = none) : secretAt (c :: out) = none := by
  rcases hcov with rfl | ⟨u, h, t, w, rfl, hh, rfl⟩
  · exact hnone
  · cases hs : secretAt (c :: (u ++ x :: w)) with
    | none => rfl
    | some r =>
      have hsome : (secretAt ((c :: u) ++ h :: t)).isSome :=
        secretAt_neutral (w := w) hx hh (c :: u) (by rw [List.cons_append, hs]; rfl)
      rw [List.cons_append, hnone] at hsome
      cases hsome

/-! ### The first pass: credentials -/

theorem run_length {p : Char → Bool} {cs r : List Char} (h : run p cs = some r) :
    r.length < cs.length := by
  cases cs with
  | nil => cases h
  | cons y ys =>
    rw [run_cons] at h
    split at h
    · cases h
      exact Nat.lt_succ_of_le (List.dropWhile_suffix _).length_le
    · cases h

theorem matchLit_length {cs r : List Char} : ∀ {lit : List Char}, matchLit lit cs = some r →
    r.length ≤ cs.length := by
  induction cs with
  | nil =>
    intro lit h
    cases lit with
    | nil => cases h; exact Nat.le_refl _
    | cons l ls => cases h
  | cons y ys ih =>
    intro lit h
    cases lit with
    | nil => cases h; exact Nat.le_refl _
    | cons l ls =>
      simp only [matchLit] at h
      split at h
      · exact Nat.le_succ_of_le (ih h)
      · cases h

/-- What is left after a secret is shorter than the text it started. -/
theorem secretAt_length {cs r : List Char} (h : secretAt cs = some r) : r.length < cs.length := by
  have horElse : ∀ {a b : Option (List Char)}, (a <|> b) = some r → a = some r ∨ b = some r := by
    intro a b hab
    cases a with
    | none => exact Or.inr hab
    | some a => exact Or.inl hab
  -- each alternative is a literal followed by a body, and a body is never empty
  have hbody : ∀ (lit : List Char) (k : List Char → Option (List Char)),
      (∀ r₀ r', k r₀ = some r' → r'.length < r₀.length) → (matchLit lit cs).bind k = some r →
        r.length < cs.length := by
    intro lit k hk hbind
    cases hm : matchLit lit cs with
    | none => rw [hm] at hbind; cases hbind
    | some r₀ =>
      rw [hm] at hbind
      exact Nat.lt_of_lt_of_le (hk r₀ r hbind) (matchLit_length hm)
  have hrun : ∀ (p : Char → Bool) r₀ r', run p r₀ = some r' → r'.length < r₀.length :=
    fun _ _ _ => run_length
  unfold secretAt at h
  dsimp only at h
  rw [Option.bind_assoc] at h
  rcases horElse h with h | h
  · exact hbody _ _ (hrun _) h
  rcases horElse h with h | h
  · exact hbody _ _ (hrun _) h
  rcases horElse h with h | h
  · exact hbody _ _ (hrun _) h
  rcases horElse h with h | h
  · exact hbody _ _ (hrun _) h
  rcases horElse h with h | h
  · exact hbody _ _ (hrun _) h
  rcases horElse h with h | h
  · exact hbody _ _ (hrun _) h
  rcases horElse h with h | h
  · exact hbody _ _ (hrun _) h
  · -- a bearer token: blanks, then its body
    refine hbody _ _ (fun r₀ r' hk => ?_) h
    cases hb : run Text.isBlank r₀ with
    | none => rw [hb] at hk; cases hk
    | some r₁ =>
      rw [hb] at hk
      exact Nat.lt_trans (run_length hk) (run_length hb)

/-- `[REDACTED]` starts no secret, whatever follows it. -/
theorem clean_redacted {cs : List Char} (h : Clean cs) : Clean ("[REDACTED]".toList ++ cs) := by
  rw [show "[REDACTED]".toList ++ cs =
    '[' :: 'R' :: 'E' :: 'D' :: 'A' :: 'C' :: 'T' :: 'E' :: 'D' :: ']' :: cs from rfl]
  refine Clean.cons ?_ (Clean.cons ?_ (Clean.cons ?_ (Clean.cons ?_ (Clean.cons ?_
    (Clean.cons ?_ (Clean.cons ?_ (Clean.cons ?_ (Clean.cons ?_ (Clean.cons ?_ h)))))))))
  all_goals apply secretAt_eq_none <;> simp [matchLit, foldsTo]

/-- With fuel for every character, the first pass leaves no secret, and its text covers the
input with `[` where a secret started. The scan goes by induction on the fuel, one character or
one secret at a time. -/
theorem redactChars_clean : ∀ (n : Nat) (cs : List Char), cs.length < n →
    Clean (redactChars n cs) ∧ Covers '[' cs (redactChars n cs)
  | 0, _, hlen => absurd hlen (Nat.not_lt_zero _)
  | n + 1, [], _ => ⟨clean_nil, Or.inl rfl⟩
  | n + 1, c :: cs, hlen => by
    cases hs : secretAt (c :: cs) with
    | some rest =>
      -- `[REDACTED]` takes the secret's place, and the scan goes on after it
      have hrest : rest.length < n := by
        have := secretAt_length hs
        simp only [List.length_cons] at this hlen
        omega
      obtain ⟨hclean, -⟩ := redactChars_clean n rest hrest
      simp only [redactChars, hs]
      exact ⟨clean_redacted hclean, Or.inr ⟨[], c, cs, _, rfl, secretAt_head hs, rfl⟩⟩
    | none =>
      have hcs : cs.length < n := by
        simp only [List.length_cons] at hlen
        omega
      obtain ⟨hclean, hcov⟩ := redactChars_clean n cs hcs
      rw [redactChars_keep n c cs hs]
      exact ⟨Clean.cons (hcov.keep neutral_bracket hs) hclean, hcov.cons⟩

/-- A text with no secret passes the first pass unchanged. -/
theorem redactChars_of_clean : ∀ (n : Nat) {cs : List Char}, Clean cs → redactChars n cs = cs
  | 0, _, _ => rfl
  | n + 1, [], _ => rfl
  | n + 1, c :: cs, h => by
    rw [redactChars_keep n c cs (h _ (List.suffix_refl _)),
      redactChars_of_clean n (h.of_suffix (List.suffix_cons c cs))]

end EpicFlow.Redact

/-! ### The second pass: the home directory -/

namespace EpicFlow.Text

variable {pat rep : List Char}

theorem replaceList_nil : replaceList pat rep [] = [] := by
  rw [replaceList]

theorem replaceList_match {c : Char} {cs : List Char} (h : pat ≠ [] ∧ pat.isPrefixOf (c :: cs) = true) :
    replaceList pat rep (c :: cs) = rep ++ replaceList pat rep ((c :: cs).drop pat.length) := by
  rw [replaceList, if_pos h]

theorem replaceList_skip {c : Char} {cs : List Char} (h : ¬(pat ≠ [] ∧ pat.isPrefixOf (c :: cs) = true)) :
    replaceList pat rep (c :: cs) = c :: replaceList pat rep cs := by
  rw [replaceList, if_neg h]

/-- A text with no occurrence of the pattern is left as it is. -/
theorem replaceList_of_not_infix : ∀ {cs : List Char}, ¬pat <:+: cs → replaceList pat rep cs = cs := by
  intro cs
  induction cs using replaceList.induct pat with
  | case1 => intro _; exact replaceList_nil
  | case2 c cs hcond _ =>
    intro hin
    exact absurd (List.isPrefixOf_iff_prefix.1 hcond.2).isInfix hin
  | case3 c cs hcond ih =>
    intro hin
    rw [replaceList_skip hcond, ih fun h => hin (h.trans (List.suffix_cons c cs).isInfix)]

variable {x : Char}

/-- What starts the text after replacing by `x`, up to the first `x`, started it before. -/
theorem prefix_replaceList :
    ∀ {cs l : List Char}, x ∉ l → l <+: replaceList pat [x] cs → l <+: cs := by
  intro cs
  induction cs using replaceList.induct pat with
  | case1 =>
    intro l _ hl
    rw [replaceList_nil] at hl
    exact hl
  | case2 c cs hcond _ =>
    intro l hxl hl
    rw [replaceList_match hcond] at hl
    rcases List.prefix_cons_iff.1 hl with rfl | ⟨t, rfl, -⟩
    · exact List.nil_prefix
    · exact absurd List.mem_cons_self hxl
  | case3 c cs hcond ih =>
    intro l hxl hl
    rw [replaceList_skip hcond] at hl
    rcases List.prefix_cons_iff.1 hl with rfl | ⟨t, rfl, ht⟩
    · exact List.nil_prefix
    · exact List.cons_prefix_cons.2 ⟨rfl, ih (fun h => hxl (List.mem_cons_of_mem c h)) ht⟩

/-- Replacing a pattern by a character it does not hold leaves no occurrence of the pattern. -/
theorem not_infix_replaceList (hne : pat ≠ []) (hx : x ∉ pat) :
    ∀ cs, ¬pat <:+: replaceList pat [x] cs := by
  intro cs
  induction cs using replaceList.induct pat with
  | case1 =>
    rw [replaceList_nil]
    exact fun h => hne (List.infix_nil.1 h)
  | case2 c cs hcond ih =>
    rw [replaceList_match hcond]
    intro hin
    rcases List.infix_cons_iff.1 hin with hpre | hin
    · -- an occurrence at the front would hold `x`
      rcases List.prefix_cons_iff.1 hpre with rfl | ⟨t, rfl, -⟩
      · exact hne rfl
      · exact hx List.mem_cons_self
    · exact ih hin
  | case3 c cs hcond ih =>
    intro hin
    rw [replaceList_skip hcond] at hin
    rcases List.infix_cons_iff.1 hin with hpre | hin
    · -- an occurrence at the front was one in the text, where the pattern did not start
      have hkept : pat <+: replaceList pat [x] (c :: cs) := by
        rw [replaceList_skip hcond]
        exact hpre
      exact hcond ⟨hne, List.isPrefixOf_iff_prefix.2 (prefix_replaceList hx hkept)⟩
    · exact ih hin

end EpicFlow.Text

namespace EpicFlow.Redact

variable {x h₀ : Char} {pat : List Char}

/-- Writing `x` for each occurrence of a pattern that starts with a character that is not
blank covers the text. -/
theorem covers_replaceList (hpat : pat.head? = some h₀) (hh₀ : Text.isBlank h₀ = false) :
    ∀ cs, Covers x cs (Text.replaceList pat [x] cs) := by
  intro cs
  induction cs using Text.replaceList.induct pat with
  | case1 =>
    rw [Text.replaceList_nil]
    exact Or.inl rfl
  | case2 c cs hcond _ =>
    rw [Text.replaceList_match hcond]
    -- the occurrence starts where the text had the pattern's first character
    have hc : c = h₀ := by
      obtain ⟨t, ht⟩ := List.isPrefixOf_iff_prefix.1 hcond.2
      cases pat with
      | nil => exact absurd rfl hcond.1
      | cons p ps =>
        simp only [List.head?_cons, Option.some.injEq] at hpat
        simp only [List.cons_append, List.cons.injEq] at ht
        rw [← ht.1, hpat]
    exact Or.inr ⟨[], c, cs, _, rfl, hc ▸ hh₀, rfl⟩
  | case3 c cs hcond ih =>
    rw [Text.replaceList_skip hcond]
    exact ih.cons

/-- Writing a neutral character for each occurrence of a pattern that starts with a character
that is not blank makes no secret in a text that held none. -/
theorem clean_replaceList (hx : Neutral x) (hpat : pat.head? = some h₀) (hh₀ : Text.isBlank h₀ = false) :
    ∀ {cs}, Clean cs → Clean (Text.replaceList pat [x] cs) := by
  intro cs
  induction cs using Text.replaceList.induct pat with
  | case1 =>
    intro _
    rw [Text.replaceList_nil]
    exact clean_nil
  | case2 c cs hcond ih =>
    intro h
    rw [Text.replaceList_match hcond]
    refine Clean.cons ?_ (ih (h.of_suffix (List.drop_suffix _ _)))
    have hfold : ∀ l ∈ litChars, foldsTo x l = false := fun _ hl => foldsTo_neutral hx hl
    exact secretAt_of_head _ (hfold _ (by decide)) (hfold _ (by decide)) (hfold _ (by decide))
      (hfold _ (by decide))
  | case3 c cs hcond ih =>
    intro h
    rw [Text.replaceList_skip hcond]
    exact Clean.cons ((covers_replaceList hpat hh₀ cs).keep hx (h _ (List.suffix_refl _)))
      (ih (h.of_suffix (List.suffix_cons c cs)))

/-! ### Sanitized text -/

/-- Sanitizing with a home directory that is set: the first pass, then the home directory
written `~`. -/
theorem sanitize_eq {home : String} (hne : home ≠ "") (hroot : home ≠ "/") (s : String) :
    (sanitize (some home) s).toList =
      Text.replaceList home.toList ['~'] (redactChars (s.toList.length + 1) s.toList) := by
  have hcond : (home.isEmpty || home == "/") = false := by
    simp [hne, hroot]
  simp only [sanitize, hcond, Bool.false_eq_true, if_false, Text.replaceAll, String.toList_ofList]
  rfl

section Sanitize

variable {home : String} (hne : home ≠ "") (hroot : home ≠ "/") (htilde : '~' ∉ home.toList)
  (hhead : ∀ c ∈ home.toList.head?, Text.isBlank c = false)

include hne hroot htilde hhead

/-- Sanitized text holds no secret and no home directory. -/
theorem sanitize_clean (s : String) :
    Clean (sanitize (some home) s).toList ∧ ¬home.toList <:+: (sanitize (some home) s).toList := by
  obtain ⟨h₀, rest, hhome⟩ := List.exists_cons_of_ne_nil (mt String.toList_eq_nil_iff.1 hne)
  have hh₀ : Text.isBlank h₀ = false := hhead h₀ (by rw [hhome]; rfl)
  have hpat : home.toList.head? = some h₀ := by rw [hhome]; rfl
  rw [sanitize_eq hne hroot s]
  exact ⟨clean_replaceList neutral_tilde hpat hh₀
      (redactChars_clean _ s.toList (Nat.lt_succ_self _)).1,
    Text.not_infix_replaceList (by rw [hhome]; exact List.cons_ne_nil _ _) htilde _⟩

/-- Sanitizing twice is sanitizing once. -/
theorem sanitize_sanitize (s : String) :
    sanitize (some home) (sanitize (some home) s) = sanitize (some home) s := by
  obtain ⟨hclean, hfree⟩ := sanitize_clean hne hroot htilde hhead s
  apply String.toList_injective
  rw [sanitize_eq hne hroot, redactChars_of_clean _ hclean, Text.replaceList_of_not_infix hfree]

end Sanitize

end EpicFlow.Redact

namespace EpicFlow

/-- **Sanitized text keeps no secret.** With a home directory that is neither empty nor the
root, holds no `~` and does not start with a blank: sanitized text holds no credential pattern
and no home directory, sanitizing it again changes nothing, and so every issue of an escalation
message holds neither. -/
theorem sanitize_hides_secrets (home : String) (hne : home ≠ "") (hroot : home ≠ "/")
    (htilde : '~' ∉ home.toList) (hhead : ∀ c ∈ home.toList.head?, Text.isBlank c = false) :
    (∀ s, Redact.Clean (Redact.sanitize (some home) s).toList ∧
      ¬home.toList <:+: (Redact.sanitize (some home) s).toList ∧
      Redact.sanitize (some home) (Redact.sanitize (some home) s) = Redact.sanitize (some home) s) ∧
    ∀ reg epicId d turns cost now,
      ∀ issue ∈ (EscalationMessage.ofDecision reg epicId d turns cost (some home) now).issues,
        Redact.Clean issue.toList ∧ ¬home.toList <:+: issue.toList := by
  refine ⟨fun s => ⟨(Redact.sanitize_clean hne hroot htilde hhead s).1,
    (Redact.sanitize_clean hne hroot htilde hhead s).2, Redact.sanitize_sanitize hne hroot htilde hhead s⟩,
    fun reg epicId d turns cost now issue hissue => ?_⟩
  -- every issue of the message is an issue of the decision, sanitized
  obtain ⟨raw, -, rfl⟩ := List.mem_map.1 hissue
  exact Redact.sanitize_clean hne hroot htilde hhead raw

/-- With the home directory `/home/oracle`, the text of a failed `docker cp` that names an
Anthropic key, a token assignment and a path under the home directory is sanitized to text with
no secret and no home directory, once and for all. -/
theorem oracle_home_sanitized :
    let out := Redact.sanitize (some "/home/oracle")
      "key sk-ant-api03-abc_DEF and GH_TOKEN=ghp_x123 in /home/oracle/.docker"
    Redact.Clean out.toList ∧ ¬"/home/oracle".toList <:+: out.toList ∧
      Redact.sanitize (some "/home/oracle") out = out :=
  (sanitize_hides_secrets "/home/oracle" (by decide) (by decide) (by decide)
    (by simp [Text.isBlank])).1 _

/-- A home directory that starts with a blank breaks the rule: `GH_TOKEN= y` holds no value
after the `=`, but once the blank is written `~` it reads as the assignment `GH_TOKEN=~y`, which
a second sanitizing redacts. -/
theorem blank_home_makes_secret :
    " " ≠ "" ∧ " " ≠ "/" ∧ '~' ∉ " ".toList ∧
    Redact.sanitize (some " ") "GH_TOKEN= y" = "GH_TOKEN=~y" ∧
    Redact.secretAt "GH_TOKEN=~y".toList = some [] ∧
    Redact.sanitize (some " ") "GH_TOKEN=~y" = "[REDACTED]" := by
  have hne : " " ≠ "" := by decide
  have hroot : " " ≠ "/" := by decide
  refine ⟨hne, hroot, by decide, ?_, by decide, ?_⟩
  · -- the text holds no secret, so only the blank is rewritten
    have hkeep : Redact.redactChars ("GH_TOKEN= y".toList.length + 1) "GH_TOKEN= y".toList =
        "GH_TOKEN= y".toList := by decide
    apply String.toList_injective
    rw [Redact.sanitize_eq hne hroot, hkeep]
    simp [Text.replaceList]
  · have hred : Redact.redactChars ("GH_TOKEN=~y".toList.length + 1) "GH_TOKEN=~y".toList =
        "[REDACTED]".toList := by decide
    apply String.toList_injective
    rw [Redact.sanitize_eq hne hroot, hred]
    simp [Text.replaceList]

end EpicFlow
