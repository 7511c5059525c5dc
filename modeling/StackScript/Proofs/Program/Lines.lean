import StackScript.Proofs.Program.Blocks
import StackScript.Proofs.Program.Shift
import StackScript.Proofs.Token.Lines

/-!
# Programs line by line

A program whose lines are programs by themselves is read as what its lines are read as, one after
the other, so it makes no difference whether it is fed as a whole or line by line, as in an
interactive session (`line_by_line`). For that nothing of one line may go on in the next: no token
does, whatever the next line is, and no block does if the line is a program by itself
(`ofTokens_append`).
-/

namespace StackScript

/-! ## Tokens of several lines -/

namespace Token

/-- What follows a line is cut as if it stood alone, that much further to the right. -/
theorem scan_append_line {line : String} {tokens : List Token} (h : scan line = .ok tokens)
    (more : String) :
    scan (line ++ "\n" ++ more) =
      ((scan more).map fun others =>
        tokens ++ others.map (·.shift (line.utf8ByteSize + 1))).mapError
          (·.shift (line.utf8ByteSize + 1)) := by
  have hline : (line ++ "\n" ++ more).toList = line.toList ++ '\n' :: more.toList := by
    simp
  have hshift := scanFrom_shift 0 more.toList (line.utf8ByteSize + 1)
  rw [scan, hline, scanFrom_append_line h, Text.byteLength_toList, Nat.add_assoc, hshift, scan]
  cases scanFrom 0 more.toList <;> rfl

end Token

namespace Program

/-! ## Blocks of several lines -/

/-- Why reading fails depends on where blocks were opened, and not on what has been read. -/
theorem readBlocks_error_congr {blocks blocks' : List OpenBlock} {done : List Term}
    {items : List Item} {e : ParseError} (h : readBlocks blocks done items = .error e)
    (hspans : blocks.map OpenBlock.span = blocks'.map OpenBlock.span) (done' : List Term) :
    readBlocks blocks' done' items = .error e := by
  fun_induction readBlocks blocks done items generalizing blocks' done' with
  | case1 => cases h
  | case2 done inner outer =>
    obtain ⟨inner', outer', rfl, hinner, -⟩ := List.map_eq_cons_iff.mp hspans.symm
    rw [readBlocks, hinner]
    exact h
  | case3 blocks done span rest ih =>
    rw [readBlocks]
    refine ih h ?_ []
    rw [List.map_cons, List.map_cons, hspans]
  | case4 done span rest =>
    obtain rfl := List.map_eq_nil_iff.mp hspans.symm
    exact h
  | case5 done span rest inner outer ih =>
    obtain ⟨inner', outer', rfl, -, houter⟩ := List.map_eq_cons_iff.mp hspans.symm
    rw [readBlocks]
    exact ih h houter.symm _
  | case6 blocks done token rest term hread ih =>
    rw [readBlocks, hread]
    exact ih h hspans _
  | case7 blocks done token rest e' hread =>
    rw [readBlocks, hread]
    exact h

/-- **What follows a program is read as if it stood alone.** -/
theorem ofTokens_append {tokens : List Token} {p : Program} (h : ofTokens tokens = .ok p)
    (more : List Token) :
    ofTokens (tokens ++ more) = (ofTokens more).map fun q => ⟨p.items ++ q.items⟩ := by
  have hreads := ofTokens_eq_ok_iff.mp h
  rcases hmore : ofTokens more with e | q
  · have hread := readBlocks_piecesAll [] [] (more.flatMap Item.ofToken) p.items hreads
    have hfails : readBlocks [] [] (more.flatMap Item.ofToken) = .error e := by
      rw [ofTokens] at hmore
      cases hresult : readBlocks [] [] (more.flatMap Item.ofToken) <;> rw [hresult] at hmore <;>
        cases hmore
      rfl
    rw [ofTokens, List.flatMap_append, hread, readBlocks_error_congr hfails rfl]
    rfl
  · refine ofTokens_eq_ok_iff.mpr ?_
    rw [List.flatMap_append, Term.piecesAll_append]
    exact List.rel_append hreads (ofTokens_eq_ok_iff.mp hmore)

/-! ## Lines -/

theorem parse_of_scan {source : String} {tokens : List Token}
    (h : Token.scan source = .ok tokens) : parse source = ofTokens tokens := by
  rw [parse, h]

/-- What can be read can be cut into tokens. -/
theorem exists_scan_of_parse {source : String} {p : Program} (h : parse source = .ok p) :
    ∃ tokens, Token.scan source = .ok tokens ∧ ofTokens tokens = .ok p := by
  rcases hscan : Token.scan source with e | tokens
  · rw [parse, hscan] at h
    cases h
  · rw [parse_of_scan hscan] at h
    exact ⟨tokens, rfl, h⟩

/-- **What follows a line that is a program is read as if it stood alone**, that much further to the
right. -/
theorem parse_append_line {line : String} {p : Program} (h : parse line = .ok p) (more : String) :
    parse (line ++ "\n" ++ more) =
      ((parse more).map fun q => ⟨p.items ++ q.items⟩).mapError
        (·.shift (line.utf8ByteSize + 1)) := by
  obtain ⟨tokens, hline, htokens⟩ := exists_scan_of_parse h
  have hscan := Token.scan_append_line hline more
  rcases hmore : Token.scan more with e | others <;> rw [hmore] at hscan
  · rw [parse, hscan, parse, hmore]
    rfl
  · rw [parse_of_scan hscan, parse_of_scan hmore, ofTokens_append htokens, ofTokens_shift]
    cases ofTokens others <;> rfl

/-- Blanks at the ends of a program change nothing. -/
theorem parse_of_parse_trim {line : String} {p : Program}
    (h : parse (String.ofList (Text.trim line.toList)) = .ok p) : parse line = .ok p := by
  obtain ⟨tokens, hscan, htokens⟩ := exists_scan_of_parse h
  obtain ⟨before, after, hline, hbefore, hafter⟩ := Text.exists_append_trim line.toList
  rw [Token.scan, String.toList_ofList] at hscan
  have hall : Token.scan line = .ok (tokens.map (·.shift (Text.byteLength before))) := by
    rw [Token.scan, hline, Token.scanFrom_gap (Token.gap_of_isBlank hbefore _),
      Token.scanFrom_shift, Token.scanFrom_append_blanks hscan hafter]
    rfl
  rw [parse_of_scan hall, ofTokens_shift, htokens]
  rfl

/-- **A program is read line by line.** If a line can be cut into tokens, what follows it is cut as
if it stood alone, with its places that much further to the right; and if the line is a program by
itself, what follows is read in the same way. So a text whose lines, without the blanks at their
ends, are programs is the program that consists of them one after the other. -/
theorem line_by_line :
    (∀ line tokens, Token.scan line = .ok tokens → ∀ more,
      Token.scan (line ++ "\n" ++ more) =
        ((Token.scan more).map fun others =>
          tokens ++ others.map (·.shift (line.utf8ByteSize + 1))).mapError
            (·.shift (line.utf8ByteSize + 1))) ∧
    (∀ line p, parse line = .ok p → ∀ more,
      parse (line ++ "\n" ++ more) =
        ((parse more).map fun q => ⟨p.items ++ q.items⟩).mapError
          (·.shift (line.utf8ByteSize + 1))) ∧
    ∀ lines programs,
      List.Forall₂ (fun line p => parse (String.ofList (Text.trim line.toList)) = .ok p)
        lines programs →
      parse ("\n".intercalate lines) = .ok ⟨programs.flatMap Program.items⟩ := by
  refine ⟨fun _ _ h more => Token.scan_append_line h more,
    fun _ _ h more => parse_append_line h more, ?_⟩
  intro lines programs h
  induction h with
  | nil =>
    rw [String.intercalate_nil, parse, Token.scan, Token.scanFrom.eq_def]
    rfl
  | @cons line p lines programs hline hlines ih =>
    have hread := parse_of_parse_trim hline
    cases hlines with
    | nil =>
      rw [String.intercalate_singleton, hread, List.flatMap_singleton]
    | cons hnext hlines =>
      rw [String.intercalate_cons_cons, parse_append_line hread, ih]
      rfl

/-- A bracket in a comment opens nothing for the next line, and the error of that line is found
where it stands in the whole. -/
theorem line_by_line_of_comment :
    let items : List Term := [.number (.int 1), .call ⟨"x"⟩]
    let programs : List Program := [⟨[.number (.int 1)]⟩, ⟨[.call ⟨"x"⟩]⟩]
    List.Forall₂ (fun line p => parse (String.ofList (Text.trim line.toList)) = .ok p)
        [" 1 % [", "x "] programs ∧
      parse ("\n".intercalate [" 1 % [", "x "]) = .ok ⟨items⟩ ∧
      Token.scan (" 1 % [" ++ "\n" ++ "x [%") = .error ⟨.arrayCharacter '%', ⟨9, 10⟩⟩ := by
  intro items programs
  obtain ⟨hscan, -, hparse⟩ := line_by_line
  have hfirst : parse (String.ofList (Text.trim " 1 % [".toList)) =
      .ok ⟨[.number (.int 1)]⟩ := by
    have htokens : Token.scan (String.ofList (Text.trim " 1 % [".toList)) =
        .ok [⟨.integer, "1", ⟨0, 1⟩⟩] := by decide +kernel
    rw [parse_of_scan htokens]
    rfl
  have hsecond : parse (String.ofList (Text.trim "x ".toList)) = .ok ⟨[.call ⟨"x"⟩]⟩ := by
    have htokens : Token.scan (String.ofList (Text.trim "x ".toList)) =
        .ok [⟨.name, "x", ⟨0, 1⟩⟩] := by decide +kernel
    rw [parse_of_scan htokens]
    rfl
  have hlines : List.Forall₂
      (fun line p => parse (String.ofList (Text.trim line.toList)) = .ok p)
      [" 1 % [", "x "] programs := .cons hfirst (.cons hsecond .nil)
  refine ⟨hlines, hparse _ _ hlines, ?_⟩
  have hline : Token.scan " 1 % [" = .ok [⟨.integer, "1", ⟨1, 2⟩⟩] := by decide +kernel
  have herror : Token.scan "x [%" = .error ⟨.arrayCharacter '%', ⟨2, 3⟩⟩ := by decide +kernel
  rw [hscan _ _ hline, herror]
  rfl

end Program

end StackScript
