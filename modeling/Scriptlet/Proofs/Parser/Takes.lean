import Scriptlet.Proofs.Parser.Steps

/-! Tokens taken from the front of a stream. The end token is never among them: an endless
stream repeats it, and every other token is followed by one more. -/
namespace Scriptlet.Stream

def Steady (stream : Stream) : Prop :=
  stream.ending = .endless → ∃ last, stream.tokens.getLast? = some last ∧ last.token = .eof

/-- From the first stream to the second, exactly the given tokens are taken. -/
def Takes (stream : Stream) (tokens : List Token) (rest : Stream) : Prop :=
  ∃ lexemes, lexemes.map (·.token) = tokens ∧ .eof ∉ tokens ∧
    stream.tokens = lexemes ++ rest.tokens ∧ rest.ending = stream.ending ∧ rest.Steady

def pending (stream : Stream) : Nat :=
  (stream.tokens.takeWhile fun lexeme => lexeme.token != .eof).length

variable {stream middle rest : Stream}

theorem pending_le_length (stream : Stream) : stream.pending ≤ stream.tokens.length :=
  (List.takeWhile_sublist _).length_le

theorem steady_of_ending (finite : stream.ending ≠ .endless) : stream.Steady := by
  intro endless
  exact (finite endless).elim

theorem step_ending : stream.step.ending = stream.ending := by
  unfold step
  split <;> rfl

theorem Steady.of_append {lexemes : List Lexeme} (steady : rest.Steady)
    (whole : stream.tokens = lexemes ++ rest.tokens) (same : rest.ending = stream.ending) :
    stream.Steady := by
  intro endless
  obtain ⟨last,final,eof⟩ := steady (same.trans endless)
  refine ⟨last,?_,eof⟩
  rw [whole,List.getLast?_append,final]
  rfl

theorem Takes.steady {tokens : List Token} (taken : stream.Takes tokens rest) : rest.Steady := by
  obtain ⟨_,_,_,_,_,steady⟩ := taken
  exact steady

private theorem all_inner {lexemes : List Lexeme} (inner : .eof ∉ lexemes.map (·.token)) :
    ∀ lexeme ∈ lexemes, (lexeme.token != .eof) = true := by
  intro lexeme member
  have token : lexeme.token ∈ lexemes.map (·.token) := List.mem_map_of_mem member
  have other : lexeme.token ≠ .eof := fun final => inner (final ▸ token)
  simpa using other

theorem Takes.pending {tokens : List Token} (taken : stream.Takes tokens rest) :
    stream.pending = tokens.length + rest.pending := by
  obtain ⟨lexemes,rfl,inner,whole,_⟩ := taken
  rw [Stream.pending,whole,List.takeWhile_append_of_pos (all_inner inner)]
  simp [Stream.pending]

theorem Takes.refl (steady : stream.Steady) : stream.Takes [] stream :=
  ⟨[],rfl,by simp,rfl,rfl,steady⟩

theorem Takes.nil (taken : stream.Takes [] rest) : stream = rest := by
  obtain ⟨lexemes,parts,_,whole,same,_⟩ := taken
  obtain rfl := List.map_eq_nil_iff.mp parts
  obtain ⟨_,_⟩ := stream
  obtain ⟨_,_⟩ := rest
  simp_all

theorem Takes.trans {before after : List Token} (first : stream.Takes before middle)
    (second : middle.Takes after rest) : stream.Takes (before ++ after) rest := by
  obtain ⟨left,rfl,innerLeft,whole,same,_⟩ := first
  obtain ⟨right,rfl,innerRight,part,again,steady⟩ := second
  refine ⟨left ++ right,by simp,by simp [innerLeft,innerRight],?_,again.trans same,steady⟩
  rw [whole,part,List.append_assoc]

/-- A stream that takes several tokens passes through every point between them. -/
theorem Takes.split {before after : List Token} (taken : stream.Takes (before ++ after) rest) :
    ∃ middle, stream.Takes before middle ∧ middle.Takes after rest := by
  obtain ⟨lexemes,parts,inner,whole,same,steady⟩ := taken
  obtain ⟨left,right,rfl,rfl,rfl⟩ := List.map_eq_append_iff.mp parts
  obtain ⟨innerLeft,innerRight⟩ : .eof ∉ left.map (·.token) ∧ .eof ∉ right.map (·.token) := by
    simpa using inner
  have later : (⟨right ++ rest.tokens,stream.ending⟩ : Stream).Steady :=
    steady.of_append rfl same
  exact ⟨⟨right ++ rest.tokens,stream.ending⟩,
    ⟨left,rfl,innerLeft,by rw [whole,List.append_assoc],rfl,later⟩,
    ⟨right,rfl,innerRight,rfl,same,steady⟩⟩

theorem Takes.one {lexeme : Lexeme} (steady : stream.Steady)
    (found : stream.current = some lexeme) (inner : lexeme.token ≠ .eof) :
    stream.Takes [lexeme.token] stream.step := by
  have alone : .eof ∉ [lexeme.token] := by simpa using inner.symm
  obtain ⟨tokens,ending⟩ := stream
  cases tokens with
  | nil => simp [current] at found
  | cons first others =>
    obtain rfl : first = lexeme := by simpa [current] using found
    cases others with
    | nil =>
      cases ending with
      | endless =>
        obtain ⟨last,final,eof⟩ := steady rfl
        obtain rfl : first = last := by simpa using final
        exact (inner eof).elim
      | closed => exact ⟨[first],rfl,alone,rfl,rfl,steady_of_ending (by simp [step])⟩
      | failed error => exact ⟨[first],rfl,alone,rfl,rfl,steady_of_ending (by simp [step])⟩
    | cons second others =>
      refine ⟨[first],rfl,alone,rfl,rfl,?_⟩
      intro endless
      obtain ⟨last,final,eof⟩ := steady endless
      exact ⟨last,by simpa [step] using final,eof⟩

theorem Takes.uncons {token : Token} {tokens : List Token}
    (taken : stream.Takes (token :: tokens) rest) :
    ∃ span, stream.current = some ⟨token,span⟩ ∧ stream.step.Takes tokens rest := by
  obtain ⟨lexemes,parts,inner,whole,same,steady⟩ := taken
  cases lexemes with
  | nil => simp at parts
  | cons first others =>
    obtain ⟨rfl,rfl⟩ := List.cons_eq_cons.mp parts
    refine ⟨first.span,by simp [current,whole],others,rfl,
      fun final => inner (List.mem_cons_of_mem _ final),?_,same.trans step_ending.symm,steady⟩
    obtain ⟨_,ending⟩ := stream
    subst whole
    cases remaining : others ++ rest.tokens with
    | nil =>
      obtain ⟨rfl,empty⟩ := List.append_eq_nil_iff.mp remaining
      cases ending with
      | endless =>
        obtain ⟨last,final,_⟩ := steady same
        simp [empty] at final
      | closed => simp [step,empty]
      | failed error => simp [step,empty]
    | cons second later => simp [step,remaining]

theorem notEof_of_current {lexeme : Lexeme} (found : stream.current = some lexeme) :
    stream.notEof = (lexeme.token != .eof) := Feed.notEof_of_current found

theorem Takes.front {tokens : List Token} (taken : stream.Takes tokens rest)
    (ended : rest.notEof = false) :
    tokens = (stream.tokens.takeWhile fun lexeme => lexeme.token != .eof).map (·.token) := by
  obtain ⟨lexemes,rfl,inner,whole,_⟩ := taken
  have stops : (rest.tokens.takeWhile fun lexeme => lexeme.token != .eof) = [] := by
    cases found : rest.tokens with
    | nil => rfl
    | cons first others =>
      have here : rest.current = some first := by rw [current,found]; rfl
      rw [notEof_of_current here] at ended
      exact List.takeWhile_cons_of_neg (by simp [ended])
  rw [whole,List.takeWhile_append_of_pos (all_inner inner),stops,List.append_nil]

end Scriptlet.Stream
