import Redial.Json.Record
import Redial.Proofs.Json.Lists
import Redial.Proofs.Json.Members

/-!
Reading records. The members of an object may come in any order, and each
field gets what its member says. An object is refused if it has a name that is
not declared, a name twice, or a value that the field of its name refuses,
wherever in the object this stands.
-/

namespace Redial.Json

open Reader

variable {σ : Type}

theorem MembersWritten.ends {members : List (String × Json)}
    {text : List Char} (hmembers : MembersWritten false members text)
    (rest : List Char) : Ends (text ++ rest) := by
  cases hmembers with
  | close hblanks =>
    rw [List.append_assoc]
    exact hblanks.ends (ends_cons (by decide))
  | member hseparator =>
    rw [List.append_assoc]
    exact ends_separator hseparator _

namespace Reader

variable {isFirst : Bool} {text : List Char}

theorem anotherMember_member {separator before : List Char}
    (hseparator : Separator isFirst separator) (hbefore : Blanks before)
    (text : List Char) :
    anotherMember isFirst (separator ++ (before ++ '"' :: text)) =
      .ok (true, '"' :: text) := by
  have hquote := hbefore.skip_cons (rfl : isBlank '"' = false) text
  cases hseparator with
  | first => simp [anotherMember, hquote]
  | comma hblanks =>
    have hcomma :=
      hblanks.skip_cons (rfl : isBlank ',' = false) (before ++ '"' :: text)
    simp [anotherMember, hcomma, hquote]

theorem anotherMember_close {blanks : List Char} (hblanks : Blanks blanks)
    (rest : List Char) :
    anotherMember isFirst (blanks ++ '\x7d' :: rest) =
      .ok (false, '\x7d' :: rest) := by
  rw [anotherMember, hblanks.skip_cons rfl]
  rfl

theorem colon_append {blanks : List Char} (hblanks : Blanks blanks)
    (rest : List Char) :
    colon (blanks ++ ':' :: rest) = .ok ((), rest) := by
  rw [colon, hblanks.skip_cons rfl]
  rfl

end Reader

/-- Whether every field of a record reads in an orderly way, whatever
the record holds. -/
def OrderlyFields (fields : List (Field σ)) : Prop :=
  ∀ field ∈ fields, ∀ depth record, Orderly (field.read depth record)

/-- Whether a field takes a value for what is set under its name. -/
def Takes (fields : List (Field σ)) (depth : Nat) (set : σ → String → σ)
    (name : String) (value : Json) : Prop :=
  ∃ field, fields.find? (fun field => field.name == name) = some field ∧
    ∀ record, Reads (field.read depth record) value (set record name)

/-- Whether a field takes what an object says of it. An object that says
nothing leaves the record as it starts. -/
def TakesMember (fields : List (Field σ)) (depth : Nat) (initial : σ)
    (set : σ → String → σ) (name : String) : Option Json → Prop
  | none => set initial name = initial
  | some value => Takes fields depth set name value

namespace Field

variable {α : Type} {name : String} {read : Nat → Reader α} {depth : Nat}
  {value : Json}

theorem leaf_orderly {set : σ → Option α → σ} (hread : Orderly (read depth))
    (record : σ) :
    Orderly ((leaf name read set).read depth record) :=
  (optional_orderly hread).map (set record)

theorem nested_orderly {set : σ → α → σ} (hread : Orderly (read depth))
    (record : σ) :
    Orderly ((nested name read set).read depth record) :=
  hread.map (set record)

theorem leaf_reads {set : σ → Option α → σ} {means : α → Json → Prop}
    {value? : Option α}
    (hmeans : ∀ value json, means value json → Reads (read depth) json value ∧
      json ≠ .null) (hsaid : Says means value? (some value)) (record : σ) :
    Reads ((leaf name read set).read depth record) value
      (set record value?) := by
  have hoptional : Reads (optional (read depth)) value value? := by
    cases hsaid with
    | null => exact optional_null_reads _
    | value hvalue =>
      exact optional_reads (hmeans _ _ hvalue).1 (hmeans _ _ hvalue).2
  exact hoptional.map (set record)

theorem nested_reads {set : σ → α → σ} {result : α}
    (hread : Reads (read depth) value result) (record : σ) :
    Reads ((nested name read set).read depth record) value
      (set record result) :=
  hread.map (set record)

section Takes

variable {fields : List (Field σ)} {initial : σ} {set : σ → String → σ}
  {json? : Option Json}

/-- A field that may be unset takes what an object says of it. -/
theorem leaf_takes {put : σ → Option α → σ} {means : α → Json → Prop}
    {value? : Option α}
    (hfind : fields.find? (fun field => field.name == name) =
      some (leaf name read put))
    (hset : ∀ record, set record name = put record value?)
    (hunset : put initial none = initial)
    (hmeans : ∀ value json, means value json →
      Reads (read depth) json value ∧ json ≠ .null)
    (hsaid : Says means value? json?) :
    TakesMember fields depth initial set name json? := by
  cases json? with
  | none =>
    cases hsaid
    exact (hset initial).trans hunset
  | some json =>
    refine ⟨_, hfind, fun record => ?_⟩
    rw [hset]
    exact leaf_reads hmeans hsaid record

/-- A field that is a record takes what the object says that is
written for it. -/
theorem nested_takes {put : σ → α → σ}
    {means : α → List (String × Json) → Prop} {unset result : α}
    (hfind : fields.find? (fun field => field.name == name) =
      some (nested name read put))
    (hset : ∀ record, set record name = put record result)
    (hunset : put initial unset = initial)
    (hreads : ∀ result members, means result members →
      Reads (read depth) (.object members) result)
    (hsaid : SaysRecord means unset result json?) :
    TakesMember fields depth initial set name json? := by
  cases hsaid with
  | absent => exact (hset initial).trans hunset
  | object hobject =>
    refine ⟨_, hfind, fun record => ?_⟩
    rw [hset]
    exact nested_reads (hreads _ _ hobject) record

end Takes

theorem nested_refuses {set : σ → α → σ}
    (hrefuses : Refuses (read depth) value) (record : σ) :
    Refuses ((nested name read set).read depth record) value :=
  hrefuses.map (set record)

end Field

/-- What makes an object unreadable for a record: a name that is not
declared, a name that is there more than once, or a value that the field of
its name refuses. -/
inductive Misfits (fields : List (Field σ)) (depth : Nat)
    (members : List (String × Json)) : Prop where
  | undeclared {member : String × Json} (hmem : member ∈ members)
      (hname : member.1 ∉ fields.map Field.name)
  | repeated (hnames : ¬ (members.map Prod.fst).Nodup)
  | refused {member : String × Json} {field : Field σ}
      (hmem : member ∈ members)
      (hfind :
        fields.find? (fun field => field.name == member.1) = some field)
      (hrefuses : ∀ record, Refuses (field.read depth record) member.2)

theorem GainsMember.misfits {fields : List (Field σ)}
    {members more : List (String × Json)}
    (hgains : GainsMember (fields.map Field.name) members more)
    (depth : Nat) :
    Misfits fields depth more := by
  obtain ⟨hname⟩ := hgains
  rcases hname with hundeclared | hrepeated
  · exact .undeclared (List.mem_append_right _ List.mem_cons_self) hundeclared
  · refine .repeated fun hnames => ?_
    rw [List.map_append, List.map_cons, List.perm_middle.nodup_iff] at hnames
    rw [List.map_append] at hrepeated
    exact (List.nodup_cons.mp hnames).1 hrepeated

namespace Record

variable {fields : List (Field σ)} {depth steps : Nat} {isFirst : Bool}
  {seen : List String} {record : σ} {members : List (String × Json)}
  {text : List Char}

theorem named_member {name : String}
    {separator before literal between : List Char}
    (hseparator : Separator isFirst separator) (hbefore : Blanks before)
    (hname : Literal.Written name.toList literal) (hbetween : Blanks between)
    (text : List Char) :
    named fields depth (steps + 1) isFirst seen record
        (separator ++
          (before ++ '"' :: (literal ++ (between ++ ':' :: text)))) =
      match fields.find? (fun field => field.name == name) with
      | none => .error (.unknownField name (fields.map Field.name))
      | some field =>
        if seen.contains name then .error (.duplicateField name)
        else field.read depth record text >>= fun (record, left) =>
          named fields depth steps false (name :: seen) record left := by
  have hliteral := Literal.content_append hname (between ++ ':' :: text)
  simp only [named, anotherMember_member hseparator hbefore, memberName]
  simp only [bind, Except.bind, hliteral, colon_append hbetween]
  rfl

theorem named_close {blanks : List Char} (hblanks : Blanks blanks)
    (rest : List Char) :
    named fields depth (steps + 1) isFirst seen record
      (blanks ++ '\x7d' :: rest) = .ok (record, '\x7d' :: rest) := by
  rw [named, anotherMember_close hblanks]
  rfl

/-- What an object makes of a record: each name that it has is set, one
after the other. -/
theorem named_reads {set : σ → String → σ} (hfields : OrderlyFields fields)
    (hreads : ∀ member ∈ members, Takes fields depth set member.1 member.2)
    (hnames : (members.map Prod.fst).Nodup)
    (hseen : ∀ member ∈ members, member.1 ∉ seen)
    (hmembers : MembersWritten isFirst members text)
    (hsteps : text.length ≤ steps) (rest : List Char) :
    named fields depth steps isFirst seen record (text ++ rest) =
      .ok ((members.map Prod.fst).foldl set record, '\x7d' :: rest) := by
  induction members generalizing isFirst seen record text steps with
  | nil =>
    cases hmembers with
    | close hblanks =>
      obtain ⟨steps, rfl⟩ :=
        Nat.exists_eq_add_one.mpr (Nat.lt_of_lt_of_le (by simp) hsteps)
      rw [List.append_assoc, List.singleton_append, named_close hblanks]
      rfl
  | cons member members ih =>
    cases hmembers with
    | @member _ name value _ separator before literal between blanks valueText
        others hseparator hbefore hname hbetween hblanks hvalue hothers =>
      obtain ⟨⟨field, hfind, hfield⟩, hreads⟩ :=
        List.forall_mem_cons.mp hreads
      obtain ⟨hfirst, hnames⟩ := List.nodup_cons.mp hnames
      obtain ⟨hunseen, hseen⟩ := List.forall_mem_cons.mp hseen
      have hothersSeen : ∀ other ∈ members, other.1 ∉ name :: seen := by
        intro other hmem hin
        rcases List.mem_cons.mp hin with hsame | hin
        · exact hfirst (List.mem_map.mpr ⟨other, hmem, hsame⟩)
        · exact hseen other hmem hin
      simp only [List.length_append, List.length_cons] at hsteps
      obtain ⟨steps, rfl⟩ := Nat.exists_eq_add_one.mpr (by omega : 0 < steps)
      have hskips :=
        (hfields field (List.mem_of_find?_eq_some hfind) depth record).skips
          blanks (valueText ++ (others ++ rest)) hblanks
      have hread :=
        hfield record valueText (others ++ rest) hvalue (hothers.ends rest)
      have hsteps : others.length ≤ steps := by omega
      have hcontains : ¬ seen.contains name = true := by simpa using hunseen
      simp only [List.append_assoc, List.cons_append]
      rw [named_member hseparator hbefore hname hbetween, hfind]
      change (if seen.contains name = true then _ else _) = _
      rw [if_neg hcontains, hskips, hread]
      exact ih hreads hnames hothersSeen hothers hsteps

/-- What is true of an object that a record was read from. -/
theorem named_eq_ok (hfields : OrderlyFields fields)
    (hmembers : MembersWritten isFirst members text) {rest left : List Char}
    {result : σ}
    (hread : named fields depth steps isFirst seen record (text ++ rest) =
      .ok (result, left)) :
    left = '\x7d' :: rest ∧ (members.map Prod.fst).Nodup ∧
      ∀ member ∈ members, member.1 ∉ seen ∧ ∃ field,
        fields.find? (fun field => field.name == member.1) = some field ∧
          ∃ record, ¬ Refuses (field.read depth record) member.2 := by
  induction steps generalizing isFirst seen record members text with
  | zero => cases hread
  | succ steps ih =>
    cases hmembers with
    | close hblanks =>
      rw [List.append_assoc, List.singleton_append,
        named_close hblanks] at hread
      obtain ⟨-, hleft⟩ := Prod.mk.inj (Except.ok.inj hread)
      exact ⟨hleft.symm, .nil, nofun⟩
    | @member _ name value members separator before literal between blanks
        valueText others hseparator hbefore hname hbetween hblanks hvalue
          hothers =>
      simp only [List.append_assoc, List.cons_append] at hread
      rw [named_member hseparator hbefore hname hbetween] at hread
      cases hfind : fields.find? (fun field => field.name == name) with
      | none =>
        rw [hfind] at hread
        cases hread
      | some field =>
        rw [hfind] at hread
        change (if seen.contains name = true then _ else _) = _ at hread
        by_cases hcontains : seen.contains name = true
        · rw [if_pos hcontains] at hread
          cases hread
        have horderly :=
          hfields field (List.mem_of_find?_eq_some hfind) depth record
        rw [if_neg hcontains, horderly.skips blanks _ hblanks] at hread
        have hwhole := horderly.whole _ _ _ hvalue (hothers.ends rest)
        obtain ⟨next, hvalueRead, hread⟩ := hwhole.of_bind hread
        obtain ⟨hleft, hnames, hothersRead⟩ := ih hothers hread
        refine ⟨hleft, List.nodup_cons.mpr ⟨fun hmem => ?_, hnames⟩,
          List.forall_mem_cons.mpr ⟨⟨by simpa using hcontains, field, hfind,
            record, ?_⟩, ?_⟩⟩
        · obtain ⟨other, hother, hsame⟩ := List.mem_map.mp hmem
          exact (hothersRead other hother).1 (hsame ▸ List.mem_cons_self)
        · intro hrefuses
          obtain ⟨problem, hproblem⟩ :=
            hrefuses _ _ hvalue (hothers.ends rest)
          rw [hvalueRead] at hproblem
          cases hproblem
        · intro other hother
          obtain ⟨hunseen, hfield⟩ := hothersRead other hother
          exact ⟨fun hin => hunseen (List.mem_cons_of_mem name hin), hfield⟩

theorem named_leaves (hfields : OrderlyFields fields)
    (hmembers : MembersWritten isFirst members text) (rest : List Char) :
    Leaves ('\x7d' :: rest)
      (named fields depth steps isFirst seen record (text ++ rest)) :=
  fun _ _ hread => (named_eq_ok hfields hmembers hread).1

/-- A list that a record is read from is closed where the fields or
its items end. -/
theorem positional_closeList_leaves {items : List Json}
    (hfields : OrderlyFields fields)
    (hitems : ItemsWritten isFirst items text) (rest : List Char) :
    Leaves rest
      (positional depth fields isFirst record (text ++ rest) >>=
        fun (record, left) =>
          closeList left >>= fun (_, left) => .ok (record, left)) := by
  induction fields generalizing isFirst record items text with
  | nil => exact (closeList_leaves hitems rest).bind fun _ => leaves_ok record
  | cons field fields ih =>
    cases hitems with
    | close hblanks =>
      rw [List.append_assoc, List.singleton_append, positional,
        anotherElement_close hblanks]
      exact leaves_ok record
    | item hseparator hblanks hvalue hothers =>
      have horderly := hfields field List.mem_cons_self depth record
      have hwhole := horderly.whole _ _ _ hvalue (hothers.ends rest)
      simp only [List.append_assoc]
      rw [positional, anotherElement_item hseparator hblanks hvalue]
      change Leaves rest ((field.read depth record _ >>= _) >>= _)
      rw [bind_assoc]
      exact hwhole.bind fun next =>
        ih (fun other hmem => hfields other (List.mem_cons_of_mem field hmem))
          hothers

variable {typeName : String} {initial : σ}

theorem read_object (text : List Char) :
    read typeName fields initial (depth + 1) ('\x7b' :: text) =
      (named fields depth (text.length + 1) true [] initial text >>=
          fun (record, left) =>
        closeObject left >>= fun (_, left) => .ok (record, left)) := rfl

/-- A record is read from the whole text of a value, or not at all. -/
theorem read_orderly (hfields : OrderlyFields fields) :
    Orderly (read typeName fields initial depth) := by
  constructor
  case skips =>
    intro blanks text hblanks
    unfold read
    rw [hblanks.skip]
  case whole =>
    intro value text rest hwritten hrest
    cases hwritten with
    | object hmembers =>
      cases depth with
      | zero => exact leaves_error _
      | succ depth =>
        rw [List.cons_append, read_object]
        exact (named_leaves hfields hmembers rest).bind fun record =>
          leaves_ok record
    | array hitems =>
      cases depth with
      | zero => exact leaves_error _
      | succ depth =>
        exact positional_closeList_leaves hfields hitems rest
    | number hnumber =>
      obtain ⟨first, tail, rfl, hfirst⟩ := hnumber.isNumeral.exists_cons
      have hbracket := ne_of_startsNumeral hfirst '[' (by decide)
      have hbrace := ne_of_startsNumeral hfirst '\x7b' (by decide)
      simp [read, skipBlanks, isBlank_of_startsNumeral hfirst, hbracket,
        hbrace]
    | nullWord | trueWord | falseWord | string =>
      cases depth <;> exact leaves_error _

/-- An object sets the fields that it names, one after the other. -/
theorem read_reads {set : σ → String → σ} (hfields : OrderlyFields fields)
    (hreads : ∀ member ∈ members, Takes fields depth set member.1 member.2)
    (hnames : (members.map Prod.fst).Nodup) :
    Reads (read typeName fields initial (depth + 1)) (.object members)
      ((members.map Prod.fst).foldl set initial) := by
  intro text rest hwritten _
  cases hwritten with
  | @object _ text hmembers =>
    have hsteps : text.length ≤ (text ++ rest).length + 1 := by
      rw [List.length_append]
      omega
    rw [List.cons_append, read_object,
      named_reads hfields hreads hnames (fun _ _ => List.not_mem_nil) hmembers
        hsteps rest]
    rfl

/-- The order of the members does not matter, and what they leave out
stays as it was. -/
theorem read_members (set : σ → String → σ) (hfields : OrderlyFields fields)
    (hdistinct : (fields.map Field.name).Nodup)
    (hcomm : ∀ record name other,
      set (set record name) other = set (set record other) name)
    (hkeyed : Keyed (fields.map Field.name) members)
    (hmembers : ∀ name ∈ fields.map Field.name,
      TakesMember fields depth initial set name (members.lookup name)) :
    Reads (read typeName fields initial (depth + 1)) (.object members)
      ((fields.map Field.name).foldl set initial) := by
  have hreads :
      ∀ member ∈ members, Takes fields depth set member.1 member.2 := by
    intro member hmem
    have htakes := hmembers member.1 (hkeyed.declared member hmem)
    rwa [lookup_eq_of_mem hkeyed.once hmem] at htakes
  have hothers : ∀ name ∈ fields.map Field.name, name ∉ members.map Prod.fst →
      set initial name = initial := by
    intro name hname hunsaid
    have htakes := hmembers name hname
    rwa [lookup_eq_none hunsaid] at htakes
  have hsubset : members.map Prod.fst ⊆ fields.map Field.name := by
    intro name hname
    obtain ⟨member, hmem, rfl⟩ := List.mem_map.mp hname
    exact hkeyed.declared member hmem
  rw [← foldl_of_subset hcomm hkeyed.once hdistinct hsubset hothers]
  exact read_reads hfields hreads hkeyed.once

theorem read_refuses (hfields : OrderlyFields fields)
    (hmisfits : Misfits fields depth members) :
    Refuses (read typeName fields initial (depth + 1)) (.object members) := by
  intro text rest hwritten hrest
  cases hread : read typeName fields initial (depth + 1) (text ++ rest) with
  | error problem => exact ⟨problem, rfl⟩
  | ok final =>
    exfalso
    cases hwritten with
    | @object _ text hmembers =>
      rw [List.cons_append, read_object] at hread
      obtain ⟨record, hread, -⟩ :=
        (named_leaves hfields hmembers rest).of_bind hread
      obtain ⟨-, hnames, hmembersRead⟩ := named_eq_ok hfields hmembers hread
      cases hmisfits with
      | undeclared hmem hname =>
        obtain ⟨-, field, hfind, -⟩ := hmembersRead _ hmem
        apply hname
        exact List.mem_map.mpr ⟨field, List.mem_of_find?_eq_some hfind, by
          simpa using List.find?_some hfind⟩
      | repeated hrepeated => exact hrepeated hnames
      | refused hmem hdeclared hrefuses =>
        obtain ⟨-, field, hfind, record, hnot⟩ := hmembersRead _ hmem
        obtain rfl := Option.some.inj (hdeclared.symm.trans hfind)
        exact hnot (hrefuses record)

end Record

/-- A field that is a record itself refuses what has one member more. -/
theorem Field.nested_refuses_gains {τ : Type} {name typeName : String}
    {fields : List (Field τ)} {initial : τ} {set : σ → τ → σ}
    {members more : List (String × Json)} {depth : Nat}
    (hfields : OrderlyFields fields)
    (hgains : GainsMember (fields.map Field.name) members more) (record : σ) :
    Refuses ((nested name (Record.read typeName fields initial) set).read
        (depth + 1) record)
      (.object more) :=
  nested_refuses (Record.read_refuses hfields (hgains.misfits depth)) record

end Redial.Json
