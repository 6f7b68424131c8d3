import MismatchLog.Proofs.Line.Text

/-!
# Bodies and terminators

A line is its body and a terminator: a line feed, perhaps with a carriage return in front of it.

* `Terminated`: lines with given bodies, whatever terminators they have;
* `Terminated.cut`, `Terminated.split`: such lines are what their log is cut into;
* `chomp_text_body`, `Terminated.map_chomp`: the text of a line without its terminator is the text
  of its body, even if the body breaks off within a character.
-/

namespace MismatchLog.Line

/-- Carriage return. -/
def cr : UInt8 := 0x0D

/-- Holds no line feed, and does not end in what could be taken for a part of the terminator. -/
structure IsBody (body : Bytes) : Prop where
  noLf : lf ∉ body
  noCr : body.getLast? ≠ some cr

inductive IsTerminator : Bytes → Prop
  | lf : IsTerminator [lf]
  | crlf : IsTerminator [cr, lf]

/-- Lines with these bodies, in order. The last may lack its terminator if its body is not empty. -/
inductive Terminated : List Bytes → List Bytes → Prop
  | nil : Terminated [] []
  | unended {body : Bytes} (ne : body ≠ []) : Terminated [body] [body]
  | cons {body terminator : Bytes} {bodies lines : List Bytes} (ended : IsTerminator terminator)
      (rest : Terminated bodies lines) :
      Terminated (body :: bodies) ((body ++ terminator) :: lines)

theorem Terminated.length_eq {bodies lines : List Bytes} (h : Terminated bodies lines) :
    lines.length = bodies.length := by
  induction h with
  | nil => rfl
  | unended => rfl
  | cons _ _ ih => rw [List.length_cons, List.length_cons, ih]

/-! ## The lines of a log -/

theorem Terminated.cut {bodies lines : List Bytes} (h : Terminated bodies lines)
    (hbodies : ∀ body ∈ bodies, IsBody body) : Cut lines := by
  induction h with
  | nil => exact cut_nil
  | @unended body ne =>
    have hno : lf ∉ body := (hbodies body List.mem_cons_self).noLf
    refine ⟨by simpa using ne, ?_, by simp⟩
    intro line hline
    obtain rfl := List.mem_singleton.mp hline
    exact mt List.mem_of_mem_dropLast hno
  | @cons body terminator bodies lines ended rest ih =>
    have hno : lf ∉ body := (hbodies body List.mem_cons_self).noLf
    have hrest := ih fun b hb => hbodies b (List.mem_cons_of_mem body hb)
    have hcr : lf ≠ cr := by decide
    cases ended with
    | lf => exact Cut.cons (by simpa using hno) List.getLast?_concat hrest
    | crlf =>
      have happend : body ++ [cr, lf] = (body ++ [cr]) ++ [lf] := by simp
      rw [happend]
      exact Cut.cons (by simp [hno, hcr]) List.getLast?_concat hrest

theorem Terminated.split {bodies lines : List Bytes} (h : Terminated bodies lines)
    (hbodies : ∀ body ∈ bodies, IsBody body) : split lines.flatten = lines :=
  split_flatten (h.cut hbodies)

/-! ## Their texts -/

theorem text_append_crlf (body : Bytes) : text (body ++ [cr, lf]) = text body ++ ['\r', '\n'] := by
  have hcr : cr < 0x80 := by decide
  have hrest : Utf8.decodeFrom none [lf] = ['\n'] := by decide
  rw [text, Utf8.decode, Utf8.decodeFrom_append_ascii Utf8.soundState_none body hcr [lf], hrest]
  rfl

/-- A carriage return at the end of the text comes from one at the end of the bytes. Otherwise,
with a line feed behind both, the text would hold a pair of signs that the bytes do not hold. -/
theorem getLast?_text_body {body : Bytes} (h : IsBody body) :
    (text body).getLast? ≠ some '\r' := by
  intro hlast
  obtain ⟨start, hstart⟩ := List.getLast?_eq_some_iff.mp hlast
  have hascii : ∀ b ∈ [cr, lf], b < 0x80 := by
    have hall : [cr, lf].all (· < 0x80) = true := by decide
    simpa using hall
  have htext : [cr, lf].map Utf8.asciiChar <:+: text (body ++ [lf]) := by
    refine ⟨start, [], ?_⟩
    rw [text_concat_lf, hstart, List.append_nil, List.append_assoc]
    rfl
  have hbytes : [cr, lf] <:+: body ++ [lf] := (Utf8.infix_decode_iff hascii (by simp) _).mp htext
  rcases List.infix_concat_iff.mp hbytes with ⟨before, hbefore⟩ | hinside
  · have hbody : before ++ [cr] = body := by
      have hends : before ++ [cr] ++ [lf] = body ++ [lf] := by
        rw [← hbefore, List.append_assoc]
        rfl
      exact List.append_cancel_right hends
    exact h.noCr (by rw [← hbody, List.getLast?_concat])
  · exact h.noLf (hinside.subset (by simp))

theorem chomp_of_lf_not_mem {t : Text} (h : '\n' ∉ t) : chomp t = t := by
  obtain ⟨e, he, ht⟩ := exists_terminator t
  rcases he with rfl | rfl | rfl
  · rw [List.append_nil] at ht
    exact ht.symm
  · exact absurd (by rw [ht]; simp) h
  · exact absurd (by rw [ht]; simp) h

theorem chomp_text_body {body : Bytes} (h : IsBody body) : chomp (text body) = text body :=
  chomp_of_lf_not_mem (mt lf_mem_text_iff.mp h.noLf)

theorem chomp_text_append {body terminator : Bytes} (h : IsBody body)
    (hterminator : IsTerminator terminator) : chomp (text (body ++ terminator)) = text body := by
  cases hterminator with
  | lf => rw [text_concat_lf, chomp_concat (getLast?_text_body h)]
  | crlf => rw [text_append_crlf, chomp_crlf]

/-- Terminators leave no trace in the texts. -/
theorem Terminated.map_chomp {bodies lines : List Bytes} (h : Terminated bodies lines)
    (hbodies : ∀ body ∈ bodies, IsBody body) :
    lines.map (fun raw => chomp (text raw)) = bodies.map text := by
  induction h with
  | nil => rfl
  | unended => exact congrArg (· :: []) (chomp_text_body (hbodies _ List.mem_cons_self))
  | cons ended rest ih =>
    rw [List.map_cons, List.map_cons, chomp_text_append (hbodies _ List.mem_cons_self) ended,
      ih fun b hb => hbodies b (List.mem_cons_of_mem _ hb)]

end MismatchLog.Line
