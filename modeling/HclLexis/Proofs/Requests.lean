import HclLexis.Proofs.Calls

/-! Two ways to ask a lexer for a token, in any order. A pull is always answered, also behind the
end of the text; the run is over once it has given the end. Either way no token is left out or
given twice, and the end of the text does not move the lexer any more. -/

namespace HclLexis

/-- What a lexer is asked for: the next token of its run, or a token whether or not the run is
over. -/
inductive Request where
  | next
  | pull
deriving DecidableEq

namespace Lexer

/-- The answer to a request, and the lexer behind it. A run that is over gives none. -/
def answer (lexer : Lexer) : Request → Option Token × Lexer
  | .next => match lexer.next? with
    | some (token, next) => (some token, next)
    | none => (none, lexer)
  | .pull => (some lexer.pull.1, lexer.pull.2)

def answers (lexer : Lexer) : List Request → List (Option Token)
  | [] => []
  | request :: requests => (lexer.answer request).1 :: (lexer.answer request).2.answers requests

def serve (lexer : Lexer) : List Request → Lexer
  | [] => lexer
  | request :: requests => (lexer.answer request).2.serve requests

def IsEnd (answer : Option Token) : Prop := ∃ token, answer = some token ∧ token.isEof

variable {t : Text} {lexer : Lexer} {tokens : List Token} {request : Request}
  {requests : List Request}

theorem serve_append (lexer : Lexer) (requests more : List Request) :
    lexer.serve (requests ++ more) = (lexer.serve requests).serve more := by
  induction requests generalizing lexer with
  | nil => rfl
  | cons request requests ih => exact ih (lexer.answer request).2

theorem Reads.answer_eq_pull (reads : Reads t lexer) (running : lexer.done = false)
    (ahead : lexer.cursor.rest ≠ []) (request : Request) :
    lexer.answer request = (some lexer.pull.1, lexer.pull.2) := by
  cases request with
  | pull => rfl
  | next => rw [answer, reads.next?_of_ahead running ahead]

theorem answer_of_ended (ended : lexer.cursor.rest = []) (request : Request) :
    ((lexer.answer request).1 = none ∨ (lexer.answer request).1 = some lexer.endToken) ∧
      (lexer.answer request).2.cursor = lexer.cursor ∧
      (lexer.answer request).2.modes = lexer.modes := by
  have stays := pull_of_ended ended
  cases request with
  | pull =>
    rw [answer, stays]
    exact ⟨.inr rfl, rfl, rfl⟩
  | next =>
    cases done : lexer.done with
    | true =>
      rw [answer, next?, if_pos done]
      exact ⟨.inl rfl, rfl, rfl⟩
    | false =>
      rw [answer, next?_of_running done, stays]
      exact ⟨.inr rfl, rfl, rfl⟩

theorem eq_endToken_of_mem_answers (ended : lexer.cursor.rest = []) {token : Token}
    (member : some token ∈ lexer.answers requests) : token = lexer.endToken := by
  induction requests generalizing lexer with
  | nil => cases member
  | cons request requests ih =>
    obtain ⟨given, cursor, modes⟩ := answer_of_ended ended request
    rw [answers, List.mem_cons] at member
    rcases member with first | others
    · rw [← first] at given
      rcases given with none | some
      · cases none
      · exact Option.some.inj some
    · have still : (lexer.answer request).2.cursor.rest = [] := by
        rw [cursor, ended]
      rw [ih still others, endToken, endToken, cursor, modes]

theorem serve_of_ended (ended : lexer.cursor.rest = []) (requests : List Request) :
    (lexer.serve requests).cursor = lexer.cursor ∧ (lexer.serve requests).modes = lexer.modes := by
  induction requests generalizing lexer with
  | nil => exact ⟨rfl, rfl⟩
  | cons request requests ih =>
    obtain ⟨-, cursor, modes⟩ := answer_of_ended ended request
    have still : (lexer.answer request).2.cursor.rest = [] := by
      rw [cursor, ended]
    obtain ⟨cursor', modes'⟩ := ih still
    exact ⟨cursor'.trans cursor, modes'.trans modes⟩

/-- The tokens among answers, less those that are the end of the text. -/
def tokensAmong (answers : List (Option Token)) : List Token :=
  answers.filterMap fun answer => answer.filter fun token => !token.isEof

theorem tokensAmong_cons {token : Token} (notEnd : token.isEof = false)
    (answers : List (Option Token)) :
    tokensAmong (some token :: answers) = token :: tokensAmong answers := by
  simp [tokensAmong, Option.filter, notEnd]

theorem tokensAmong_answers_of_ended (ended : lexer.cursor.rest = []) (requests : List Request) :
    tokensAmong (lexer.answers requests) = [] := by
  rw [tokensAmong, List.filterMap_eq_nil_iff]
  intro answer member
  cases answer with
  | none => rfl
  | some token =>
    rw [eq_endToken_of_mem_answers ended member]
    rfl

theorem Drains.tokensAmong_answers (drains : lexer.Drains tokens) (reads : Reads t lexer)
    (running : lexer.done = false) (requests : List Request) :
    tokensAmong (lexer.answers requests) =
      (tokens.filter fun token => !token.isEof).take requests.length := by
  induction drains generalizing requests with
  | ended ended =>
    rw [tokensAmong_answers_of_ended ended]
    exact List.take_nil.symm
  | @next lexer tokens ahead _ ih =>
    cases requests with
    | nil => rfl
    | cons request requests =>
      have notEnd := reads.isEof_eq_false ahead
      have others := ih reads.pull (by rw [pull_done, running]) requests
      rw [answers, reads.answer_eq_pull running ahead, tokensAmong_cons notEnd, others]
      simp [notEnd]

theorem Drains.getLast?_of_isEof (drains : lexer.Drains tokens) (reads : Reads t lexer)
    (running : lexer.done = false) {token : Token}
    (member : some token ∈ lexer.answers requests) (isEof : token.isEof) :
    tokens.getLast? = some token := by
  induction drains generalizing requests with
  | ended ended =>
    rw [eq_endToken_of_mem_answers ended member]
    rfl
  | @next lexer tokens ahead others ih =>
    cases requests with
    | nil => cases member
    | cons request requests =>
      rw [answers, reads.answer_eq_pull running ahead, List.mem_cons] at member
      rcases member with first | behind
      · rw [Option.some.inj first, reads.isEof_iff] at isEof
        exact absurd isEof ahead
      · have last := ih reads.pull (by rw [pull_done, running]) behind
        rw [List.getLast?_cons, last]
        rfl

theorem Reads.ended_of_isEnd (reads : Reads t lexer) (running : lexer.done = false)
    (given : ∃ answer ∈ lexer.answers requests, IsEnd answer) :
    (lexer.serve requests).cursor.rest = [] := by
  induction requests generalizing lexer with
  | nil =>
    obtain ⟨answer, member, -⟩ := given
    cases member
  | cons request requests ih =>
    by_cases ended : lexer.cursor.rest = []
    · rw [(serve_of_ended ended _).1, ended]
    · have running' : lexer.pull.2.done = false := by
        rw [pull_done, running]
      obtain ⟨answer, member, isEnd⟩ := given
      rw [serve, reads.answer_eq_pull running ended]
      rw [answers, reads.answer_eq_pull running ended, List.mem_cons] at member
      rcases member with rfl | behind
      · obtain ⟨token, same, isEof⟩ := isEnd
        rw [← Option.some.inj same, reads.isEof_iff] at isEof
        exact absurd isEof ended
      · exact ih reads.pull running' ⟨answer, behind, isEnd⟩

theorem answer_eq_none_iff (lexer : Lexer) (request : Request) :
    (lexer.answer request).1 = none ↔ request = .next ∧ lexer.done := by
  cases request with
  | pull => simp [answer]
  | next => cases done : lexer.done <;> simp [answer, next?, done]

theorem answer_done_iff (lexer : Lexer) (request : Request) :
    (lexer.answer request).2.done ↔
      lexer.done ∨ request = .next ∧ IsEnd (lexer.answer request).1 := by
  cases request with
  | pull => simp [answer]
  | next => cases done : lexer.done <;> simp [answer, next?, done, IsEnd]

theorem answers_getElem?_none_iff (lexer : Lexer) (requests : List Request) (n : Nat) :
    (lexer.answers requests)[n]? = some none ↔ requests[n]? = some Request.next ∧
      (lexer.done ∨ ∃ m < n, requests[m]? = some Request.next ∧
        ∃ answer, (lexer.answers requests)[m]? = some answer ∧ IsEnd answer) := by
  induction requests generalizing lexer n with
  | nil => simp [answers]
  | cons request requests ih =>
    rw [answers]
    cases n with
    | zero => simp [answer_eq_none_iff]
    | succ n =>
      rw [List.getElem?_cons_succ, ih, answer_done_iff, Nat.exists_lt_succ_left]
      simp [or_assoc]

/-- Requests in any order get the tokens of a text from the first on, each once; an end of the text
is its last token; the run gives nothing just behind an end that it gave itself; and once an answer
was the end nothing moves any more. -/
theorem answers_interleaved (t : Text) (requests : List Request) :
    tokensAmong ((ofText t).answers requests) = (tokensBeforeEnd t).take requests.length ∧
    (∀ token, some token ∈ (ofText t).answers requests → token.isEof →
      (tokenize t).getLast? = some token) ∧
    (∀ n : Nat, ((ofText t).answers requests)[n]? = some none ↔ requests[n]? = some Request.next ∧
      ∃ m < n, requests[m]? = some Request.next ∧
        ∃ answer, ((ofText t).answers requests)[m]? = some answer ∧ IsEnd answer) ∧
    ((∃ answer ∈ (ofText t).answers requests, IsEnd answer) → ∀ more,
      ((ofText t).serve (requests ++ more)).cursor = ((ofText t).serve requests).cursor ∧
      ((ofText t).serve (requests ++ more)).modes = ((ofText t).serve requests).modes) := by
  have reads := reads_ofText t
  have drains := drains_tokenize t
  refine ⟨drains.tokensAmong_answers reads rfl requests, fun token member isEof => ?_, fun n => ?_,
    fun given more => ?_⟩
  · exact drains.getLast?_of_isEof reads rfl member isEof
  · have running : (ofText t).done = false := rfl
    rw [answers_getElem?_none_iff]
    simp [running]
  · rw [serve_append]
    exact serve_of_ended (reads.ended_of_isEnd rfl given) more

end Lexer

end HclLexis
