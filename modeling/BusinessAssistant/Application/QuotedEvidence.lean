/-
# What an answer quotes

An answer joins the trimmed texts of its evidence until one does not fit, cites all of
it, and so quotes every item it cites exactly where there is room for all but the last.
-/

import BusinessAssistant.Application.ChunkCover
import BusinessAssistant.Application.KnowledgeAnswers
import BusinessAssistant.Foundation.Transaction
import Mathlib.Data.List.Forall2

namespace BusinessAssistant.Application.Knowledge

open BusinessAssistant.Domain BusinessAssistant.Foundation

/-! ## What is to hold -/

/-- An answer is made of parts of some texts, in order, each complete except possibly the
last. -/
structure Quotes (answer : Text) (maximum : Nat) (texts : List Text) : Prop where
  length : answer.length ≤ maximum
  parts : ∃ parts : List Text, answer = joinParagraphs parts ∧
    List.Forall₂ (fun part text => part ≠ [] ∧ part <+: text) parts texts ∧
    parts.dropLast = texts.dropLast

/-- The texts are trimmed and there is room for all but the last, and then some. -/
structure RoomForAll (maximum : Nat) (texts : List Text) : Prop where
  trimmed : ∀ text ∈ texts.dropLast, text.Trimmed
  last : ∀ text ∈ texts.getLast?, ∀ char ∈ text.head?, Text.isSpace char = false
  room : (joinParagraphs texts.dropLast).length + (if 2 ≤ texts.length then 2 else 0) < maximum

/-! ## Parts of texts -/

theorem strip_split (text : Text) : ∃ before after : Text,
    text = before ++ Text.strip text ++ after ∧
      (∀ char ∈ before, Text.isSpace char = true) ∧ ∀ char ∈ after, Text.isSpace char = true := by
  refine ⟨text.takeWhile Text.isSpace,
    ((text.dropWhile Text.isSpace).reverse.takeWhile Text.isSpace).reverse, ?_, ?_, ?_⟩
  · rw [Text.strip, List.append_assoc, ← List.reverse_append, List.takeWhile_append_dropWhile,
      List.reverse_reverse, List.takeWhile_append_dropWhile]
  · exact fun char hchar => List.mem_takeWhile_imp hchar
  · exact fun char hchar => List.mem_takeWhile_imp (List.mem_reverse.mp hchar)

/-- A text that begins with a character that is no space. -/
def Solid (text : Text) : Prop := ∃ char rest, text = char :: rest ∧ Text.isSpace char = false

theorem Solid.ne_nil {text : Text} (hsolid : Solid text) : text ≠ [] := by
  obtain ⟨char, rest, rfl, _⟩ := hsolid
  exact List.cons_ne_nil _ _

theorem solid_strip {text : Text} (hblank : ¬ text.Blank) : Solid (Text.strip text) := by
  have htrimmed := Text.trimmed_strip text
  cases hstrip : Text.strip text with
  | nil => exact absurd hstrip hblank
  | cons char rest =>
      rw [hstrip] at htrimmed
      exact ⟨char, rest, rfl, htrimmed.1 char rfl⟩

/-- A beginning of a text begins like it. -/
theorem Solid.of_prefix {text part : Text} (hsolid : Solid text) (hpart : part <+: text)
    (hsome : part ≠ []) : Solid part := by
  obtain ⟨char, rest, rfl, hchar⟩ := hsolid
  cases part with
  | nil => exact absurd rfl hsome
  | cons head tail =>
      have hhead := (List.cons_prefix_cons.mp hpart).1
      exact ⟨char, tail, by rw [hhead], hchar⟩

theorem prefix_rstrip (text : Text) : rstrip text <+: text := by
  have hsuffix := List.dropWhile_suffix (l := text.reverse) Text.isSpace
  rw [← List.reverse_prefix, List.reverse_reverse] at hsuffix
  exact hsuffix

theorem rstrip_ne_nil {text : Text} (hsolid : Solid text) : rstrip text ≠ [] := by
  obtain ⟨char, rest, rfl, hchar⟩ := hsolid
  intro hempty
  have hall := List.dropWhile_eq_nil_iff.mp (List.reverse_eq_nil_iff.mp hempty) char (by simp)
  rw [hchar] at hall
  cases hall

theorem prefix_beforeLastSpace (text : Text) (hsolid : Solid text) :
    beforeLastSpace text <+: text ∧ beforeLastSpace text ≠ [] := by
  have hsplit := List.takeWhile_append_dropWhile (p := (· ≠ ' ')) (l := text.reverse)
  rw [beforeLastSpace]
  cases hdrop : text.reverse.dropWhile (· ≠ ' ') with
  | nil => exact ⟨List.prefix_refl text, hsolid.ne_nil⟩
  | cons space rest =>
      have hspace : space = ' ' := by
        have hhead := List.head?_dropWhile_not (· ≠ ' ') text.reverse
        rw [hdrop] at hhead
        simpa using hhead
      rw [hdrop] at hsplit
      have htext : text = rest.reverse ++
          space :: (text.reverse.takeWhile (· ≠ ' ')).reverse := by
        have := congrArg List.reverse hsplit
        simpa using this.symm
      refine ⟨⟨_, htext.symm⟩, ?_⟩
      intro hempty
      obtain ⟨char, more, hmore, hchar⟩ := hsolid
      have hempty' : rest.reverse = [] := hempty
      rw [hempty', List.nil_append] at htext
      rw [htext] at hmore
      cases hmore
      rw [hspace] at hchar
      revert hchar
      decide

/-- The part of a text an answer has room for is not empty. -/
theorem cutText_spec {text : Text} (hsolid : Solid text) {available : Nat} (hroom : available ≠ 0) :
    cutText text available ≠ [] ∧ cutText text available <+: text ∧
      (cutText text available).length ≤ available := by
  rw [cutText]
  split
  · rename_i hfits
    exact ⟨hsolid.ne_nil, List.prefix_refl text, hfits⟩
  · have htake : text.take available ≠ [] := by
      rw [Ne, List.take_eq_nil_iff, not_or]
      exact ⟨hroom, hsolid.ne_nil⟩
    have hstart := hsolid.of_prefix (List.take_prefix available text) htake
    obtain ⟨hbefore, hsome⟩ := prefix_beforeLastSpace _ hstart
    have hpart := (prefix_rstrip (beforeLastSpace (text.take available))).trans hbefore
    refine ⟨rstrip_ne_nil (hstart.of_prefix hbefore hsome),
      hpart.trans (List.take_prefix available text), ?_⟩
    exact hpart.length_le.trans (by rw [List.length_take]; exact Nat.min_le_left _ _)

/-! ## The parts of an answer -/

/-- What the loop quotes of trimmed texts, with room for some characters. -/
def quotedFrom : Nat → List Text → List Text
  | _, [] => []
  | available, text :: rest =>
      if available = 0 then []
      else if text.length ≤ available then text :: quotedFrom (available - text.length - 2) rest
      else [cutText text available]

theorem quoteEvidence_eq (maximum : Nat) {items : List KnowledgeEvidence}
    (hblank : ∀ item ∈ items, ¬ item.chunk.text.Blank) (parts : List Text) (size : Nat) :
    quoteEvidence maximum parts size items =
      parts ++ quotedFrom (maximum - size - if parts = [] then 0 else 2)
        (items.map fun item => Text.strip item.chunk.text) := by
  induction items generalizing parts size with
  | nil => simp [quoteEvidence, quotedFrom]
  | cons item rest ih =>
      have hsolid := solid_strip (hblank item List.mem_cons_self)
      have hlater := ih fun other hother => hblank other (List.mem_cons_of_mem _ hother)
      rw [quoteEvidence, List.map_cons, quotedFrom]
      simp only
      by_cases hroom : maximum - size - (if parts = [] then 0 else 2) = 0
      · rw [if_pos hroom, if_pos hroom, List.append_nil]
      · have hvalue := (cutText_spec hsolid hroom).1
        rw [if_neg hroom, if_neg hroom, if_neg hvalue, if_neg hvalue]
        by_cases hfits : (Text.strip item.chunk.text).length ≤
            maximum - size - (if parts = [] then 0 else 2)
        · have hwhole : cutText (Text.strip item.chunk.text)
              (maximum - size - if parts = [] then 0 else 2) = Text.strip item.chunk.text :=
            if_pos hfits
          have hnext : maximum - (size + (if parts = [] then 0 else 2) +
              (Text.strip item.chunk.text).length) - 2 =
                maximum - size - (if parts = [] then 0 else 2) -
                  (Text.strip item.chunk.text).length - 2 := by
            omega
          have hlonger : parts ++ [Text.strip item.chunk.text] ≠ [] :=
            List.append_ne_nil_of_right_ne_nil _ (List.cons_ne_nil _ _)
          rw [if_neg (Nat.not_lt.mpr hfits), if_pos hfits, hwhole, hlater, if_neg hlonger, hnext,
            List.append_assoc, List.singleton_append]
        · rw [if_pos (Nat.lt_of_not_le hfits), if_neg hfits]

/-- Texts that could be quoted begin with what is no space. -/
theorem solid_quotedFrom {texts : List Text} (hsolid : ∀ text ∈ texts, Solid text)
    (available : Nat) : ∀ part ∈ quotedFrom available texts, Solid part := by
  induction texts generalizing available with
  | nil => simp [quotedFrom]
  | cons text rest ih =>
      intro part hpart
      have htext := hsolid text List.mem_cons_self
      rw [quotedFrom] at hpart
      split at hpart
      · cases hpart
      rename_i hroom
      split at hpart
      · cases hpart with
        | head => exact htext
        | tail _ hlater =>
            exact ih (fun other hother => hsolid other (List.mem_cons_of_mem _ hother)) _ part
              hlater
      · rw [List.mem_singleton.mp hpart]
        obtain ⟨hsome, hbegins, _⟩ := cutText_spec htext hroom
        exact htext.of_prefix hbegins hsome

/-! ## Joined parts -/

@[simp] theorem joinParagraphs_nil : joinParagraphs [] = [] := List.intercalate_nil

@[simp] theorem joinParagraphs_singleton (part : Text) : joinParagraphs [part] = part :=
  List.intercalate_singleton

theorem joinParagraphs_cons (part : Text) {parts : List Text} (hparts : parts ≠ []) :
    joinParagraphs (part :: parts) = part ++ ['\n', '\n'] ++ joinParagraphs parts :=
  List.intercalate_cons_of_ne_nil hparts

theorem length_joinParagraphs_cons (part : Text) {parts : List Text} (hparts : parts ≠ []) :
    (joinParagraphs (part :: parts)).length = part.length + 2 + (joinParagraphs parts).length := by
  rw [joinParagraphs_cons part hparts, List.length_append, List.length_append]
  simp

theorem Solid.append {first : Text} (hfirst : Solid first) (rest : Text) :
    Solid (first ++ rest) := by
  obtain ⟨char, more, rfl, hchar⟩ := hfirst
  exact ⟨char, more ++ rest, rfl, hchar⟩

theorem solid_joinParagraphs {parts : List Text} (hsome : parts ≠ [])
    (hsolid : ∀ part ∈ parts, Solid part) : Solid (joinParagraphs parts) := by
  cases parts with
  | nil => exact absurd rfl hsome
  | cons part rest =>
      have hpart := hsolid part List.mem_cons_self
      by_cases hrest : rest = []
      · rw [hrest, joinParagraphs_singleton]
        exact hpart
      · rw [joinParagraphs_cons part hrest, List.append_assoc]
        exact hpart.append _

/-- What is quoted fits in the room there is. -/
theorem length_quotedFrom {texts : List Text} (hsolid : ∀ text ∈ texts, Solid text)
    (available : Nat) : (joinParagraphs (quotedFrom available texts)).length ≤ available := by
  induction texts generalizing available with
  | nil => simp [quotedFrom]
  | cons text rest ih =>
      have hlater := ih (fun other hother => hsolid other (List.mem_cons_of_mem _ hother))
        (available - text.length - 2)
      rw [quotedFrom]
      split
      · simp
      rename_i hroom
      split
      · rename_i hfits
        by_cases hnone : quotedFrom (available - text.length - 2) rest = []
        · rw [hnone, joinParagraphs_singleton]
          exact hfits
        · have hsome := List.length_pos_of_ne_nil (solid_joinParagraphs hnone
            (solid_quotedFrom (fun other hother => hsolid other (List.mem_cons_of_mem _ hother))
              _)).ne_nil
          rw [length_joinParagraphs_cons text hnone]
          omega
      · rw [joinParagraphs_singleton]
        exact (cutText_spec (hsolid text List.mem_cons_self) hroom).2.2

/-! ## When every text is quoted -/

/-- Two texts with a blank line between, of which one is trimmed and followed by no space,
are the same where they join to the same. -/
theorem eq_strip_of_append_eq {text first last : Text} (hfirst : Solid first)
    (heq : Text.strip text ++ ['\n', '\n'] ++ first = text ++ ['\n', '\n'] ++ last)
    (hblank : ¬ text.Blank) : text.Trimmed ∧ first = last := by
  obtain ⟨before, after, htext, hbefore, hafter⟩ := strip_split text
  have hsolid := solid_strip hblank
  obtain ⟨char, more, hstrip, hchar⟩ := hsolid
  have hnone : before = [] := by
    cases before with
    | nil => rfl
    | cons space spaces =>
        have hhead : char = space := by
          rw [hstrip] at heq
          conv at heq => rhs; rw [htext]
          exact (List.cons.inj heq).1
        have hspace := hbefore space List.mem_cons_self
        rw [← hhead, hchar] at hspace
        cases hspace
  rw [hnone, List.nil_append] at htext
  have hrest : ['\n', '\n'] ++ first = after ++ (['\n', '\n'] ++ last) := by
    rw [List.append_assoc] at heq
    conv at heq => rhs; rw [htext, List.append_assoc, List.append_assoc]
    exact List.append_cancel_left heq
  obtain ⟨start, tail, rfl, hstart⟩ := hfirst
  -- With a space too many, what follows the blank line would begin with a space.
  match after, hafter, hrest, htext with
  | [], _, hrest, htext =>
      rw [List.append_nil] at htext
      exact ⟨Text.strip_eq_self_iff.mp htext.symm, List.append_cancel_left hrest⟩
  | [_], _, hrest, _ =>
      have hspace : start = '\n' := (List.cons.inj (List.cons.inj (List.cons.inj hrest).2).2).1
      rw [hspace] at hstart
      exact absurd hstart (by decide)
  | [_, _], _, hrest, _ =>
      have hspace : start = '\n' := (List.cons.inj (List.cons.inj (List.cons.inj hrest).2).2).1
      rw [hspace] at hstart
      exact absurd hstart (by decide)
  | _ :: _ :: space :: _, hafter, hrest, _ =>
      have hspace : start = space := (List.cons.inj (List.cons.inj (List.cons.inj hrest).2).2).1
      rw [hspace, hafter space (by simp)] at hstart
      cases hstart

/-- What is quoted with room for some characters is made of parts of all the texts. -/
def QuotedAll (available : Nat) (texts : List Text) : Prop :=
  ∃ parts : List Text, joinParagraphs (quotedFrom available (texts.map Text.strip)) =
      joinParagraphs parts ∧
    List.Forall₂ (fun part text => part ≠ [] ∧ part <+: text) parts texts ∧
    parts.dropLast = texts.dropLast

/-- A text begins with what is no space where a solid text is a beginning of it. -/
theorem head_of_prefix {part text : Text} (hsolid : Solid part) (hpart : part <+: text) :
    ∀ char ∈ text.head?, Text.isSpace char = false := by
  obtain ⟨char, more, rfl, hchar⟩ := hsolid
  obtain ⟨rest, rfl⟩ := hpart
  intro other hother
  rw [← Option.mem_some.mp hother]
  exact hchar

theorem strip_prefix_of_head {text : Text}
    (hhead : ∀ char ∈ text.head?, Text.isSpace char = false) : Text.strip text <+: text := by
  have hdrop := Text.dropWhile_of_head hhead
  have hpart := prefix_rstrip (text.dropWhile Text.isSpace)
  rw [hdrop] at hpart
  rw [Text.strip, hdrop]
  exact hpart

/-- One text is quoted where there is room at all and no space comes first. -/
theorem quotedAll_singleton {text : Text} (hblank : ¬ text.Blank) (available : Nat) :
    QuotedAll available [text] ↔ RoomForAll available [text] := by
  have hsolid := solid_strip hblank
  have hroomForAll : RoomForAll available [text] ↔
      available ≠ 0 ∧ ∀ char ∈ text.head?, Text.isSpace char = false := by
    constructor
    · intro hroom
      exact ⟨Nat.ne_of_gt (Nat.lt_of_le_of_lt (Nat.zero_le _) hroom.room), hroom.last text rfl⟩
    · rintro ⟨hroom, hhead⟩
      have hlast : ∀ other ∈ [text].getLast?, ∀ char ∈ other.head?,
          Text.isSpace char = false := by
        intro other hother
        rw [← Option.mem_some.mp hother]
        exact hhead
      exact { trimmed := by simp, last := hlast, room := Nat.pos_of_ne_zero hroom }
  rw [hroomForAll]
  have hquoted (hroom : available ≠ 0) :
      ∃ part, quotedFrom available ([text].map Text.strip) = [part] ∧ Solid part ∧
        part <+: Text.strip text := by
    by_cases hfits : (Text.strip text).length ≤ available
    · refine ⟨Text.strip text, ?_, hsolid, List.prefix_refl _⟩
      rw [List.map_singleton, quotedFrom, if_neg hroom, if_pos hfits, quotedFrom]
    · obtain ⟨hsome, hbegins, _⟩ := cutText_spec hsolid hroom
      refine ⟨cutText (Text.strip text) available, ?_, hsolid.of_prefix hbegins hsome, hbegins⟩
      rw [List.map_singleton, quotedFrom, if_neg hroom, if_neg hfits]
  constructor
  · rintro ⟨parts, heq, hparts, _⟩
    cases hparts with
    | cons hpart hnone =>
        cases hnone
        rename_i part
        by_cases hroom : available = 0
        · rw [hroom, List.map_singleton, quotedFrom, if_pos rfl, joinParagraphs_nil,
            joinParagraphs_singleton] at heq
          exact absurd heq.symm hpart.1
        · obtain ⟨quoted, hquote, hstart, _⟩ := hquoted hroom
          rw [hquote, joinParagraphs_singleton, joinParagraphs_singleton] at heq
          rw [heq] at hstart
          exact ⟨hroom, head_of_prefix hstart hpart.2⟩
  · rintro ⟨hroom, hhead⟩
    obtain ⟨quoted, hquote, hstart, hbegins⟩ := hquoted hroom
    refine ⟨[quoted], by rw [hquote], ?_, rfl⟩
    exact List.Forall₂.cons ⟨hstart.ne_nil, hbegins.trans (strip_prefix_of_head hhead)⟩
      List.Forall₂.nil

theorem roomForAll_cons (available : Nat) (text : Text) {rest : List Text} (hrest : rest ≠ []) :
    RoomForAll available (text :: rest) ↔
      text.Trimmed ∧ RoomForAll (available - text.length - 2) rest := by
  have hlast : (text :: rest).dropLast = text :: rest.dropLast := List.dropLast_cons_of_ne_nil hrest
  have hget : (text :: rest).getLast? = rest.getLast? := by
    cases rest with
    | nil => exact absurd rfl hrest
    | cons head tail => exact List.getLast?_cons_cons
  have htwo : 2 ≤ (text :: rest).length := by
    have := List.length_pos_of_ne_nil hrest
    rw [List.length_cons]
    omega
  have hlength : (joinParagraphs (text :: rest).dropLast).length =
      text.length + ((joinParagraphs rest.dropLast).length + if 2 ≤ rest.length then 2 else 0) := by
    rw [hlast]
    cases rest with
    | nil => exact absurd rfl hrest
    | cons head tail =>
        cases tail with
        | nil => simp
        | cons second more =>
            rw [List.dropLast_cons_of_ne_nil (List.cons_ne_nil second more),
              length_joinParagraphs_cons text (List.cons_ne_nil head _), if_pos (by simp)]
            omega
  constructor
  · rintro ⟨htrimmed, hend, hroom⟩
    rw [hlast] at htrimmed
    rw [hget] at hend
    rw [hlength, if_pos htwo] at hroom
    refine ⟨htrimmed text List.mem_cons_self,
      fun other hother => htrimmed other (List.mem_cons_of_mem _ hother), hend, ?_⟩
    omega
  · rintro ⟨hfirst, htrimmed, hend, hroom⟩
    refine ⟨?_, by rw [hget]; exact hend, ?_⟩
    · rw [hlast]
      intro other hother
      cases hother with
      | head => exact hfirst
      | tail _ hlater => exact htrimmed other hlater
    · rw [hlength, if_pos htwo]
      omega

/-- Where all texts are quoted the first is trimmed, and the others are quoted in the room it
leaves. -/
theorem QuotedAll.of_cons {available : Nat} {text : Text} {rest : List Text} (hrest : rest ≠ [])
    (hblank : ∀ other ∈ text :: rest, ¬ other.Blank) (h : QuotedAll available (text :: rest)) :
    text.Trimmed ∧ QuotedAll (available - text.length - 2) rest := by
  have hlast : (text :: rest).dropLast = text :: rest.dropLast := List.dropLast_cons_of_ne_nil hrest
  have htext := hblank text List.mem_cons_self
  have hsolid : ∀ part ∈ rest.map Text.strip, Solid part := by
    intro part hpart
    obtain ⟨other, hother, rfl⟩ := List.mem_map.mp hpart
    exact solid_strip (hblank other (List.mem_cons_of_mem _ hother))
  obtain ⟨parts, heq, hparts, hdrop⟩ := h
  cases hparts with
  | cons hpart hothers =>
      rename_i part others
      have hsome : others ≠ [] := by
        intro hnone
        rw [hnone] at hothers
        cases hothers
        exact hrest rfl
      rw [List.dropLast_cons_of_ne_nil hsome, hlast] at hdrop
      obtain ⟨rfl, hdropped⟩ := List.cons.inj hdrop
      have hlong := congrArg List.length heq
      rw [length_joinParagraphs_cons _ hsome] at hlong
      have hstrip : (Text.strip part).length ≤ part.length := by
        obtain ⟨before, after, hsplit, _⟩ := strip_split part
        have := congrArg List.length hsplit
        rw [List.length_append, List.length_append] at this
        omega
      rw [List.map_cons, quotedFrom] at heq hlong
      split at heq
      · rename_i hnone
        rw [if_pos hnone, joinParagraphs_nil, List.length_nil] at hlong
        omega
      rename_i hroom
      rw [if_neg hroom] at hlong
      split at heq
      · rename_i hfits
        rw [if_pos hfits] at hlong
        by_cases hnone : quotedFrom (available - (Text.strip part).length - 2)
            (rest.map Text.strip) = []
        · rw [hnone, joinParagraphs_singleton] at hlong
          omega
        · rw [joinParagraphs_cons _ hnone, joinParagraphs_cons _ hsome] at heq
          obtain ⟨htrimmed, hlater⟩ := eq_strip_of_append_eq
            (solid_joinParagraphs hnone (solid_quotedFrom hsolid _)) heq htext
          rw [Text.strip_of_trimmed htrimmed] at hlater
          exact ⟨htrimmed, others, hlater, hothers, hdropped⟩
      · rename_i hfits
        rw [if_neg hfits, joinParagraphs_singleton] at hlong
        have hcut := (cutText_spec (solid_strip htext) hroom).2.1.length_le
        omega

/-- A trimmed text is quoted before others that are quoted in the room it leaves. -/
theorem QuotedAll.cons {available : Nat} {text : Text} {rest : List Text} (hrest : rest ≠ [])
    (htext : ¬ text.Blank) (htrimmed : text.Trimmed)
    (h : QuotedAll (available - text.length - 2) rest) : QuotedAll available (text :: rest) := by
  have hlast : (text :: rest).dropLast = text :: rest.dropLast := List.dropLast_cons_of_ne_nil hrest
  obtain ⟨parts, heq, hparts, hdrop⟩ := h
  have hstrip := Text.strip_of_trimmed htrimmed
  have hsome : parts ≠ [] := by
    intro hnone
    rw [hnone] at hparts
    cases hparts
    exact hrest rfl
  have hquoted : quotedFrom (available - text.length - 2) (rest.map Text.strip) ≠ [] := by
    intro hnone
    rw [hnone] at heq
    cases hparts with
    | nil => exact hsome rfl
    | cons hpart hothers =>
        rename_i part other others texts
        by_cases hothers : others = []
        · rw [hothers, joinParagraphs_nil, joinParagraphs_singleton] at heq
          exact hpart.1 heq.symm
        · have := congrArg List.length heq
          rw [length_joinParagraphs_cons _ hothers, joinParagraphs_nil, List.length_nil] at this
          omega
  have hroom : available - text.length - 2 ≠ 0 := by
    intro hnone
    apply hquoted
    cases hmap : rest.map Text.strip with
    | nil => rfl
    | cons first others => rw [quotedFrom, if_pos hnone]
  refine ⟨text :: parts, ?_, ?_, ?_⟩
  · rw [List.map_cons, quotedFrom, hstrip, if_neg (by omega), if_pos (by omega),
      joinParagraphs_cons _ hquoted, joinParagraphs_cons _ hsome, heq]
  · exact List.Forall₂.cons
      ⟨fun hnone => htext (by rw [hnone] at hstrip ⊢; exact hstrip), List.prefix_refl _⟩ hparts
  · rw [List.dropLast_cons_of_ne_nil hsome, hlast, hdrop]

/-- All texts are quoted where the first is trimmed and the others are quoted in the room
it leaves. -/
theorem quotedAll_cons (available : Nat) {text : Text} {rest : List Text} (hrest : rest ≠ [])
    (hblank : ∀ other ∈ text :: rest, ¬ other.Blank) :
    QuotedAll available (text :: rest) ↔
      text.Trimmed ∧ QuotedAll (available - text.length - 2) rest := by
  constructor
  · exact QuotedAll.of_cons hrest hblank
  · rintro ⟨htrimmed, hquoted⟩
    exact hquoted.cons hrest (hblank text List.mem_cons_self) htrimmed

theorem quotedAll_iff {texts : List Text} (hsome : texts ≠ [])
    (hblank : ∀ text ∈ texts, ¬ text.Blank) (available : Nat) :
    QuotedAll available texts ↔ RoomForAll available texts := by
  induction texts generalizing available with
  | nil => exact absurd rfl hsome
  | cons text rest ih =>
      by_cases hrest : rest = []
      · rw [hrest]
        exact quotedAll_singleton (hblank text List.mem_cons_self) available
      · rw [quotedAll_cons available hrest hblank, roomForAll_cons available text hrest,
          ih hrest fun other hother => hblank other (List.mem_cons_of_mem _ hother)]

/-- The texts of evidence are quoted exactly where there is room for all but the last. -/
theorem quotes_extractiveAnswer {evidence : List KnowledgeEvidence} (hsome : evidence ≠ [])
    (hblank : ∀ item ∈ evidence, ¬ item.chunk.text.Blank) (maximum : Nat) :
    Quotes (extractiveAnswer evidence maximum) maximum
        (evidence.map fun item => item.chunk.text) ↔
      RoomForAll maximum (evidence.map fun item => item.chunk.text) := by
  have hquoted : extractiveAnswer evidence maximum = joinParagraphs
      (quotedFrom maximum ((evidence.map fun item => item.chunk.text).map Text.strip)) := by
    rw [extractiveAnswer, quoteEvidence_eq maximum hblank, List.map_map]
    rfl
  have hblanks : ∀ text ∈ evidence.map fun item => item.chunk.text, ¬ text.Blank := by
    intro text htext
    obtain ⟨item, hitem, rfl⟩ := List.mem_map.mp htext
    exact hblank item hitem
  have hsolid : ∀ part ∈ (evidence.map fun item => item.chunk.text).map Text.strip,
      Solid part := by
    intro part hpart
    obtain ⟨text, htext, rfl⟩ := List.mem_map.mp hpart
    exact solid_strip (hblanks text htext)
  rw [← quotedAll_iff (fun hnone => hsome (List.map_eq_nil_iff.mp hnone)) hblanks maximum, hquoted]
  constructor
  · intro hquotes
    exact hquotes.parts
  · intro hall
    exact { length := length_quotedFrom hsolid maximum, parts := hall }

/-! ## Answers -/

theorem citedEvidence_chunk {item : RetrievedKnowledgeChunk} {cited : KnowledgeEvidence}
    (hcited : citedEvidence item = .ok cited) : cited.chunk = item := by
  rw [citedEvidence] at hcited
  split at hcited
  · cases hcited
    rfl
  · cases hcited

theorem citedEvidence_chunks {items : List RetrievedKnowledgeChunk}
    {evidence : List KnowledgeEvidence} (hcited : items.mapM citedEvidence = .ok evidence) :
    evidence.map (·.chunk) = items := by
  induction items generalizing evidence with
  | nil =>
      rw [List.mapM_nil] at hcited
      cases hcited
      rfl
  | cons item rest ih =>
      rw [List.mapM_cons] at hcited
      obtain ⟨cited, hitem, hcited⟩ := except_bind_eq_ok.mp hcited
      obtain ⟨others, hothers, hcited⟩ := except_bind_eq_ok.mp hcited
      cases hcited
      rw [List.map_cons, citedEvidence_chunk hitem, ih hothers]

section Answers

variable [PythonLibrary] {F : Type} {isfinite : F → Bool} {policy : KnowledgePolicy}
  {embed : List Text → Except KnowledgeFailure (List (List F))}
  {hybridSearch : Text → List F → Except KnowledgeFailure (List RetrievedKnowledgeChunk)}

/-- The retrieved chunks that are relevant enough -/
def eligible (policy : KnowledgePolicy) (candidates : List RetrievedKnowledgeChunk) :
    List RetrievedKnowledgeChunk :=
  candidates.filter fun item => item.score ≥ policy.minimumRelevance

/-- An answer from relevant chunks cites each of them and quotes from their texts. -/
theorem answerForTenant_ok {query : Text} {candidates : List RetrievedKnowledgeChunk}
    {answer : KnowledgeAnswer}
    (hretrieve : retrieve isfinite policy embed hybridSearch (normalizeSource query) =
      .ok candidates)
    (hanswer : answerForTenant isfinite policy embed hybridSearch query = .ok answer)
    (hsome : eligible policy candidates ≠ []) :
    answer.evidence.map (·.chunk) = eligible policy candidates ∧
      answer.text = extractiveAnswer answer.evidence policy.maximumAnswerCharacters := by
  have hquery : ¬ (normalizeSource query = [] ∨ (normalizeSource query).length > 2000) := by
    intro hbad
    rw [answerForTenant] at hanswer
    simp only [if_pos hbad] at hanswer
    cases hanswer
  rw [answerForTenant] at hanswer
  simp only [if_neg hquery, hretrieve] at hanswer
  have hkept : (candidates.filter fun item => item.score ≥ policy.minimumRelevance) ≠ [] := hsome
  rw [if_neg hkept] at hanswer
  obtain ⟨evidence, hevidence, hanswer⟩ := except_bind_eq_ok.mp hanswer
  cases hanswer
  exact ⟨citedEvidence_chunks hevidence, rfl⟩

/-- An answer quotes every chunk it cites exactly where there is room for all but the
last. -/
theorem cited_is_quoted_iff {query : Text} {candidates : List RetrievedKnowledgeChunk}
    {answer : KnowledgeAnswer}
    (hretrieve : retrieve isfinite policy embed hybridSearch (normalizeSource query) =
      .ok candidates)
    (hanswer : answerForTenant isfinite policy embed hybridSearch query = .ok answer)
    (hsome : eligible policy candidates ≠ [])
    (hblank : ∀ item ∈ eligible policy candidates, ¬ item.text.Blank) :
    Quotes answer.text policy.maximumAnswerCharacters
        (answer.evidence.map fun item => item.chunk.text) ↔
      RoomForAll policy.maximumAnswerCharacters
        ((eligible policy candidates).map fun item => item.text) := by
  obtain ⟨hchunks, htext⟩ := answerForTenant_ok hretrieve hanswer hsome
  have htexts : (answer.evidence.map fun item => item.chunk.text) =
      (eligible policy candidates).map fun item => item.text := by
    rw [← hchunks, List.map_map]
    rfl
  rw [htext, ← htexts]
  refine quotes_extractiveAnswer (fun hnone => hsome ?_) (fun item hitem => ?_) _
  · rw [← hchunks, hnone, List.map_nil]
  · apply hblank
    rw [← hchunks]
    exact List.mem_map_of_mem hitem

end Answers

/-! ## Small answers -/

namespace SmallAnswer

/-- The shortest answers a deployment may ask for. -/
def policy : KnowledgePolicy where
  embeddingModel := "model".toList
  embeddingDimensions := 1
  candidateLimit := 2
  resultLimit := 2
  minimumRelevance := 1 / 2
  maximumAnswerCharacters := 200
  maximumSourceBytes := 1024
  embeddingValid := by decide +kernel
  limitsValid := by decide
  relevanceValid := by decide +kernel
  answerValid := by decide
  sourceValid := by decide

def chunk (chunkId : UUID) (text : Text) : RetrievedKnowledgeChunk where
  documentId := 1
  documentVersion := 1
  chunkId := chunkId
  title := "Delivery".toList
  sourceType := .markdown
  text := text
  heading := none
  checksum := List.replicate 64 'a'
  score := 1
  lexicalRank := some 1
  vectorRank := none

def embed (texts : List Text) : Except KnowledgeFailure (List (List Nat)) :=
  .ok (texts.map fun _ => [0])

def found (first second : Text) (_ : Text) (_ : List Nat) :
    Except KnowledgeFailure (List RetrievedKnowledgeChunk) :=
  .ok [chunk 1 first, chunk 2 second]

/-- A text of as many characters. -/
def repeated (size : Nat) : Text := List.replicate size 'x'

open SmallSource in
theorem retrieve_found (first second query : Text) :
    retrieve (fun _ : Nat => true) policy embed (found first second) query =
      .ok [chunk 1 first, chunk 2 second] := rfl

theorem eligible_found (first second : Text) :
    eligible policy [chunk 1 first, chunk 2 second] = [chunk 1 first, chunk 2 second] := by
  have hscore : (1 : ℚ) ≥ 1 / 2 := by decide +kernel
  exact List.filter_eq_self.mpr fun item hitem => by
    rcases List.mem_pair.mp hitem with rfl | rfl <;> exact decide_eq_true hscore

end SmallAnswer

open SmallAnswer SmallSource in
theorem short_answer_quoted : ∃ answer,
    answerForTenant (fun _ : Nat => true) SmallAnswer.policy embed
        (found (repeated 20) (repeated 20)) "When".toList = .ok answer ∧
      Quotes answer.text 200 (answer.evidence.map fun item => item.chunk.text) := by
  have hok : (answerForTenant (fun _ : Nat => true) SmallAnswer.policy embed
      (found (repeated 20) (repeated 20)) "When".toList).toBool = true := by decide +kernel
  cases hanswer : answerForTenant (fun _ : Nat => true) SmallAnswer.policy embed
      (found (repeated 20) (repeated 20)) "When".toList with
  | error failure =>
      rw [hanswer] at hok
      cases hok
  | ok answer =>
      have heligible := eligible_found (repeated 20) (repeated 20)
      have hiff := cited_is_quoted_iff
        (retrieve_found (repeated 20) (repeated 20) (normalizeSource "When".toList)) hanswer
        (by rw [heligible]; exact List.cons_ne_nil _ _)
        (by rw [heligible]; decide)
      rw [heligible] at hiff
      exact ⟨answer, rfl, hiff.mpr
        { trimmed := by decide, last := by decide, room := by decide }⟩

open SmallAnswer SmallSource in
/-- Where the first text fills the answer, the second is cited and not quoted. -/
theorem cited_not_quoted : ∃ answer,
    answerForTenant (fun _ : Nat => true) SmallAnswer.policy embed
        (found (repeated 200) (repeated 20)) "When".toList = .ok answer ∧
      ¬ Quotes answer.text 200 (answer.evidence.map fun item => item.chunk.text) := by
  have hok : (answerForTenant (fun _ : Nat => true) SmallAnswer.policy embed
      (found (repeated 200) (repeated 20)) "When".toList).toBool = true := by decide +kernel
  cases hanswer : answerForTenant (fun _ : Nat => true) SmallAnswer.policy embed
      (found (repeated 200) (repeated 20)) "When".toList with
  | error failure =>
      rw [hanswer] at hok
      cases hok
  | ok answer =>
      have heligible := eligible_found (repeated 200) (repeated 20)
      obtain ⟨hchunks, htext⟩ := answerForTenant_ok
        (retrieve_found (repeated 200) (repeated 20) (normalizeSource "When".toList)) hanswer
        (by rw [heligible]; exact List.cons_ne_nil _ _)
      rw [heligible] at hchunks
      have hsome : answer.evidence ≠ [] := by
        intro hnone
        rw [hnone] at hchunks
        cases hchunks
      have hblank : ∀ item ∈ answer.evidence, ¬ item.chunk.text.Blank := by
        intro item hitem
        have hmem : item.chunk ∈ answer.evidence.map (·.chunk) := List.mem_map_of_mem hitem
        rw [hchunks] at hmem
        rcases List.mem_pair.mp hmem with hfirst | hsecond
        · rw [hfirst]
          decide
        · rw [hsecond]
          decide
      have htexts : (answer.evidence.map fun item => item.chunk.text) =
          [repeated 200, repeated 20] := by
        have hmapped := congrArg (List.map RetrievedKnowledgeChunk.text) hchunks
        rw [List.map_map] at hmapped
        exact hmapped
      refine ⟨answer, rfl, fun hquotes => ?_⟩
      rw [htext] at hquotes
      have hroom := ((quotes_extractiveAnswer hsome hblank 200).mp hquotes).room
      rw [htexts] at hroom
      exact absurd hroom (by decide +kernel)

end BusinessAssistant.Application.Knowledge
