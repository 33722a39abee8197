import CallScribe.Proofs.Pattern.Gaps
import CallScribe.Proofs.Pattern.Shape
import CallScribe.Redaction.Redactor

/-!
# CallScribe.Proofs.Redaction.Families

The five built-in families, as the theory of redaction sees them.

* `Family.Anatomy`: the parts of a family's pattern, what may follow a match, and that no lead
  holds a match of its own.
* `Family.anatomy_of_mem`: every built-in family has one.
* `Family.parts`: a match of one built-in family closes off the text behind it for every built-in
  family.
* `Family.lead_quiet`: what a match keeps is no secret of the same family.
-/

namespace CallScribe

namespace Family

/-- The characters at which a family looks for the edge of a word. -/
def edgeOpeners : List Char := ['s', 'p', 'b', 'B']

/-- The parts of a family's pattern. -/
structure Anatomy (f : Family) where
  edged : Bool
  body : Pattern
  lead : Pattern
  token : Pattern
  /-- What a match takes as much of as there is. -/
  greed : CharSet
  shaped : f.pattern.Shaped edged body lead token
  opens : edged = true → ∀ s ∈ body.opening, ∀ c, s.contains c = true → c ∈ edgeOpeners
  greedy : ∀ c ∈ edgeOpeners, greed.contains c = true
  stops : ∀ {h d : Place}, (body.ends h).head? = some d →
    memberAt CharSet.word d.behind = false ∨
      ∀ c, d.ahead.head? = some c → greed.contains c = false
  lead_free : ∀ {u v : List Char}, lead.Reads u → v <:+: u → ¬ body.Reads v
  unquoted : token.mayRead '"' = false ∧ token.mayRead '\\' = false

open Pattern

theorem not_reads_nil {p : Pattern} (h : p.nullable = false) : ¬ p.Reads [] := by
  intro hr
  have := hr.nullable
  rw [h] at this
  cases this

/-- A pattern without a lead has no match within its empty lead. -/
theorem lead_free_empty {p : Pattern} (h : p.nullable = false) {u v : List Char}
    (hu : Pattern.empty.Reads u) (hv : v <:+: u) : ¬ p.Reads v := by
  have hu' : u = [] := hu
  subst hu'
  rw [List.infix_nil.mp hv]
  exact not_reads_nil h

theorem stops_of_endsIn {p : Pattern} {s : CharSet} (hp : p.EndsIn s) {h d : Place}
    (hd : (p.ends h).head? = some d) : memberAt CharSet.word d.behind = false ∨
      ∀ c, d.ahead.head? = some c → s.contains c = false :=
  Or.inr fun _ hc => hp.not_member hd hc

theorem mem_edgeOpeners_of_single {x : Char} (hx : x ∈ edgeOpeners) {c : Char}
    (h : (CharSet.single x).contains c = true) : c ∈ edgeOpeners := by
  rw [CharSet.contains_single.mp h]
  exact hx

/-- A key: a word and as many key characters as there are, behind the edge of a word. -/
def Anatomy.key (name : String) {q : Pattern} (hb : q.blind = true) (hl : q.hasLead = false)
    (hn : q.nullable = false) (he : q.EndsIn keyChars)
    (hq : q.mayRead '"' = false ∧ q.mayRead '\\' = false)
    (ho : ∀ s ∈ q.opening, s = CharSet.single 's' ∨ s = CharSet.single 'p') :
    Anatomy ⟨name, .seq wordEdge q⟩ where
  edged := true
  body := q
  lead := .empty
  token := q
  greed := keyChars
  shaped := .ofEdge hb hl hn
  opens _ s hs c hc := by
    rcases ho s hs with rfl | rfl
    · exact mem_edgeOpeners_of_single (by decide) hc
    · exact mem_edgeOpeners_of_single (by decide) hc
  greedy := List.all_eq_true.mp (by decide)
  stops := stops_of_endsIn he
  lead_free := lead_free_empty hn
  unquoted := hq

def anthropicAnatomy : Anatomy anthropic :=
  .key "anthropic" (q := seqAll [word "sk-ant-", many keyChars 8]) rfl rfl rfl (.seq _ (.many 8))
    (by decide) fun _ hs => Or.inl (List.mem_singleton.mp hs)

def langfuseAnatomy : Anatomy langfuse :=
  .key "langfuse" (q := seqAll [altAll [word "sk", word "pk"], word "-lf-", many keyChars 8])
    rfl rfl rfl (.seq _ (.seq _ (.many 8))) (by decide) fun _ hs => by
      rcases List.mem_cons.mp hs with hs | hs
      · exact Or.inl hs
      · exact Or.inr (List.mem_singleton.mp hs)

def openaiAnatomy : Anatomy openai :=
  .key "openai" (q := seqAll [word "sk-", many keyChars 4]) rfl rfl rfl (.seq _ (.many 4))
    (by decide) fun _ hs => Or.inl (List.mem_singleton.mp hs)

/-- In a text whose first part has no `P` and whose second has no `Q`, nothing that is `Q` comes
after something that is `P`. -/
theorem not_infix_of_halves {P Q : CharSet} {A B v : List Char}
    (hA : ∀ a ∈ A, P.contains a = false) (hB : ∀ b ∈ B, Q.contains b = false)
    (hv : v <:+: A ++ B) {x y : Char} (hxy : [x, y].Sublist v) (hx : P.contains x = true)
    (hy : Q.contains y = true) : False := by
  obtain ⟨l₁, l₂, he, h₁, h₂⟩ := List.sublist_append_iff.mp (hxy.trans hv.sublist)
  cases l₁ with
  | nil =>
    have hyB : y ∈ B := h₂.subset (by rw [← List.nil_append l₂, ← he]; simp)
    rw [hB y hyB] at hy
    cases hy
  | cons a l₁ =>
    rw [List.cons_append, List.cons.injEq] at he
    have hxA : x ∈ A := h₁.subset (by rw [he.1]; exact List.mem_cons_self)
    rw [hA x hxA] at hx
    cases hx

/-- The lead of a bearer token. -/
def bearerLead : Pattern := .seq (wordAnyCase "bearer") (many CharSet.blank 1)

def bearerToken : Pattern := .seq (many bearerChars 1) (many (CharSet.single '=') 0)

theorem bearer_lead_free {u v : List Char} (hu : bearerLead.Reads u) (hv : v <:+: u) :
    ¬ (Pattern.seq (.lead bearerLead) bearerToken).Reads v := by
  rintro ⟨l, t, rfl, ⟨n, b, rfl, _, hb⟩, r, z, rfl, hr, _⟩
  obtain ⟨A, B, rfl, hA, hB⟩ := hu
  obtain ⟨x, b, rfl⟩ := List.exists_cons_of_length_pos hb.2
  obtain ⟨y, r, rfl⟩ := List.exists_cons_of_length_pos hr.2
  refine not_infix_of_halves (P := CharSet.blank) (Q := bearerChars) (x := x) (y := y)
    (fun a ha => hA.not_contains (by decide) ha)
    (fun a ha => CharSet.not_contains_of_apart (by decide) (hB.1 a ha)) hv ?_
    (hb.1 x List.mem_cons_self) (hr.1 y List.mem_cons_self)
  have hx : [x].Sublist (n ++ x :: b) := List.singleton_sublist.mpr (by simp)
  have hy : [y].Sublist (y :: r ++ z) := List.singleton_sublist.mpr (by simp)
  exact hx.append hy

def bearerAnatomy : Anatomy bearer where
  edged := true
  body := .seq (.lead bearerLead) bearerToken
  lead := bearerLead
  token := bearerToken
  greed := bearerChars
  shaped := .ofEdgeLead rfl rfl rfl rfl rfl
  opens _ s hs c hc := by
    rw [List.mem_singleton.mp hs] at hc
    obtain ⟨r, hr, hlo, hhi⟩ := CharSet.exists_range_of_inRanges hc
    have hr' : r ∈ [(66, 66), (98, 98)] := hr
    simp only [List.mem_cons, List.not_mem_nil, or_false] at hr'
    rcases hr' with rfl | rfl
    · have : c = 'B' := Char.toNat_inj.mp (Nat.le_antisymm hhi hlo)
      rw [this]
      decide
    · have : c = 'b' := Char.toNat_inj.mp (Nat.le_antisymm hhi hlo)
      rw [this]
      decide
  greedy := List.all_eq_true.mp (by decide)
  stops hd := by
    rcases not_member_or_padded hd with hb | hs
    · left
      rw [hb]
      decide
    · exact Or.inr hs
  lead_free := bearer_lead_free
  unquoted := by decide

/-- The lead of an assignment: the name and what stands between it and the value. -/
def assignmentLead : Pattern :=
  seqAll [credentialName, maybe quoteMark, many CharSet.blank 0, .one colonOrEquals,
    many CharSet.blank 0, maybe quoteMark]

def assignmentToken : Pattern := many valueChars 16

theorem assignment_lead_free {u v : List Char} (hu : assignmentLead.Reads u) (hv : v <:+: u) :
    ¬ (Pattern.seq (.lead assignmentLead) assignmentToken).Reads v := by
  rintro ⟨l, t, rfl, ⟨n, _, rfl, _, q, _, rfl, _, b, _, rfl, _, _, z, rfl, ⟨x, rfl, hx⟩, _⟩, hr⟩
  obtain ⟨n', _, rfl, hn, q', _, rfl, hq, b', _, rfl, hb, c, _, rfl, hc, e, r, rfl, he, hr'⟩ := hu
  obtain ⟨y, t, rfl⟩ := List.exists_cons_of_length_pos (Nat.lt_of_lt_of_le (by decide) hr.2)
  refine not_infix_of_halves (P := colonOrEquals) (Q := valueChars) (x := x) (y := y)
    (A := n' ++ (q' ++ b')) (B := c ++ (e ++ r)) (v := n ++ (q ++ (b ++ ([x] ++ z))) ++ y :: t)
    ?_ ?_ (by simpa using hv) ?_ hx (hr.1 y List.mem_cons_self)
  · intro a ha
    have hA : (Pattern.seq credentialName (.seq (maybe quoteMark) (many CharSet.blank 0))).Reads
        (n' ++ (q' ++ b')) := ⟨n', _, rfl, hn, q', b', rfl, hq, hb⟩
    exact hA.not_contains (by decide) ha
  · intro a ha
    have hB : (Pattern.seq (.one colonOrEquals)
        (.seq (many CharSet.blank 0) (maybe quoteMark))).Reads (c ++ (e ++ r)) :=
      ⟨c, _, rfl, hc, e, r, rfl, he, hr'⟩
    exact hB.not_contains (by decide) ha
  · have hx' : [x].Sublist (n ++ (q ++ (b ++ ([x] ++ z)))) :=
      List.singleton_sublist.mpr (by simp)
    have hy' : [y].Sublist (y :: t) := List.singleton_sublist.mpr (by simp)
    exact hx'.append hy'

def assignmentAnatomy : Anatomy assignment where
  edged := false
  body := .seq (.lead assignmentLead) assignmentToken
  lead := assignmentLead
  token := assignmentToken
  greed := valueChars
  shaped := .ofLead rfl rfl rfl rfl
  opens h := by cases h
  greedy := List.all_eq_true.mp (by decide)
  stops := stops_of_endsIn (.seq _ (.many 16))
  lead_free := assignment_lead_free
  unquoted := by decide

theorem anatomy_of_mem {f : Family} (hf : f ∈ builtin) : Nonempty (Anatomy f) := by
  simp only [builtin, List.mem_cons, List.not_mem_nil, or_false] at hf
  rcases hf with rfl | rfl | rfl | rfl | rfl
  · exact ⟨anthropicAnatomy⟩
  · exact ⟨langfuseAnatomy⟩
  · exact ⟨openaiAnatomy⟩
  · exact ⟨bearerAnatomy⟩
  · exact ⟨assignmentAnatomy⟩

theorem steady {f : Family} (hf : f ∈ builtin) : f.pattern.Steady := by
  obtain ⟨A⟩ := anatomy_of_mem hf
  exact A.shaped.steady

/-- Of what stands in front of a match it only matters whether it is a word character. -/
theorem first?_congr {f : Family} (hf : f ∈ builtin) {behind behind' : Option Char}
    (h : memberAt CharSet.word behind = memberAt CharSet.word behind') (cs : List Char) :
    f.pattern.first? behind cs = f.pattern.first? behind' cs := by
  obtain ⟨A⟩ := anatomy_of_mem hf
  refine A.shaped.first?_behind ?_
  simp only [Pattern.guard, Look.holds, h]

/-- A match of a built-in family closes off the text behind it for every built-in family. It ends
in padding, which is no word character, or in front of a character at which no family looks for
the edge of a word. -/
theorem parts {f g : Family} (hf : f ∈ builtin) (hg : g ∈ builtin) :
    f.pattern.Parts g.pattern := by
  obtain ⟨A⟩ := anatomy_of_mem hf
  obtain ⟨B⟩ := anatomy_of_mem hg
  intro behind w rest d hd hr x hx
  cases x with
  | nil => rw [B.shaped.steady.first?_nil, B.shaped.steady.first?_nil]
  | cons c x =>
    have hw : w ≠ [] := by
      have hlt := A.shaped.steady.pos_pos hd
      rw [hr.pos] at hlt
      rintro rfl
      simp [Place.start] at hlt
    have hbehind : d.behind = w.getLast? := by
      rw [hr.behind]
      cases hl : w.getLast? with
      | none => exact absurd (List.getLast?_eq_none_iff.mp hl) hw
      | some y => rfl
    have hahead : d.ahead.head? = some c := by
      have ha : d.ahead = rest := List.append_cancel_left hr.ahead.symm
      obtain ⟨z, rfl⟩ := hx
      rw [ha]
      rfl
    rcases A.stops (A.shaped.body_of_match hd) with hword | hgreed
    · exact first?_congr hg (by rw [← hbehind, hword]; rfl) _
    · cases he : B.edged with
      | false => exact B.shaped.first?_behind (by rw [he]; rfl)
      | true =>
        have hc : ∀ s ∈ B.body.opening, s.contains c = false := by
          intro s hs
          cases hsc : s.contains c with
          | false => rfl
          | true =>
            have hmem := A.greedy c (B.opens he s hs c hsc)
            rw [hgreed c hahead] at hmem
            cases hmem
        rw [B.shaped.first?_none_of_opening hc, B.shaped.first?_none_of_opening hc]

/-- The lead that a match keeps is no secret of the same family. -/
theorem lead_quiet {f : Family} (hf : f ∈ builtin) {behind : Option Char} {w rest : List Char}
    {d : Place} (hd : f.pattern.first? behind (w ++ rest) = some d)
    (hr : Place.Reached (Place.start behind (w ++ rest)) w d) :
    f.pattern.occursAfter behind (w.take d.kept) = false := by
  obtain ⟨A⟩ := anatomy_of_mem hf
  obtain ⟨u, v, hr', hu, _, _, hk, _⟩ := A.shaped.parts_of_match hd
  rw [hr.unique hr', hk, List.take_left]
  exact A.shaped.occursAfter_of_infix (fun _ hv => A.lead_free hu hv) behind

/-- What a match masks is free of quotes and backslashes, and it is something. -/
theorem masked_unquoted {f : Family} (hf : f ∈ builtin) {behind : Option Char}
    {w rest : List Char} {d : Place} (hd : f.pattern.first? behind (w ++ rest) = some d)
    (hr : Place.Reached (Place.start behind (w ++ rest)) w d) :
    w.drop d.kept ≠ [] ∧ ∀ c ∈ w.drop d.kept, c ≠ '"' ∧ c ≠ '\\' := by
  obtain ⟨A⟩ := anatomy_of_mem hf
  obtain ⟨u, v, hr', _, hv, hne, hk, _⟩ := A.shaped.parts_of_match hd
  rw [hr.unique hr', hk, List.drop_left]
  refine ⟨hne, fun c hc => ⟨?_, ?_⟩⟩
  · rintro rfl
    have := hv.mayRead hc
    rw [A.unquoted.1] at this
    cases this
  · rintro rfl
    have := hv.mayRead hc
    rw [A.unquoted.2] at this
    cases this

theorem mayRead_of_mem_matched {f : Family} (hf : f ∈ builtin) {α : Type} {char : α → Char}
    {behind : Option Char} {xs : List α} {x : α}
    (hx : x ∈ f.pattern.matchedFrom char behind xs) : f.pattern.mayRead (char x) = true := by
  obtain ⟨A⟩ := anatomy_of_mem hf
  exact A.shaped.mayRead_of_mem_matched hx

end Family
end CallScribe
