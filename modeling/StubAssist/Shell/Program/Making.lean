import StubAssist.Shell.Program.Paths

/-!
# New files

Files with names that nothing else has, second names for files, and files of a size.
-/

namespace StubAssist
namespace Shell
namespace Program

open Activity

/-!
# Files for a while
-/

namespace Temporary

structure Template where
  front : Text
  count : Nat
  ending : Text
deriving DecidableEq, Repr

def split (t : Text) : Text × Text :=
  let ending := (t.reverse.takeWhile (· != 'X')).reverse
  if ending.length == t.length then (t, []) else (t.take (t.length - ending.length), ending)

def ofText (t ending : Text) : Template :=
  let count := (t.reverse.takeWhile (· == 'X')).length
  ⟨t.take (t.length - count), count, ending⟩

def letters : (count n : Nat) → Text
  | 0, _ => []
  | count + 1, n =>
      let digits := "abcdefghijklmnopqrstuvwxyzABCDEFGHIJKLMNOPQRSTUVWXYZ0123456789".toList
      digits.getD (n % 62) 'a' :: letters count (n / 62 * 31 + n % 62 * 7 + 11)

def Template.path (template : Template) (n : Nat) : Text :=
  template.front ++ letters template.count n ++ template.ending

def Template.freePath (template : Template) (files : FileTree) : (fuel n : Nat) → Text
  | 0, n => template.path n
  | fuel + 1, n =>
      if (files.lookupLink (template.path n)).isOk then
        template.freePath files fuel (n + 1)
      else template.path n

def directoryFrom (asked : Option Text) : Activity Text := do
  let usual := ((← surroundings).environment.lookup "TMPDIR".toList).getD []
  match asked with
  | some path => if !path.isEmpty then return path
  | none => pure ()
  return if usual.isEmpty then "/tmp".toList else usual

def inDirectory (directory name : Text) : Text :=
  if directory.getLast? == some '/' then directory ++ name else directory ++ '/' :: name

def template (given : Given) : Activity Template := do
  let asked := given.operands.headD "tmp.XXXXXXXXXX".toList
  let (body, ending) ←
    match given.value? 's' with
    | some ending =>
        if asked.getLast? != some 'X' then
          fail 1 ("with --suffix, template " ++ quote asked ++ " must end in X")
        pure (asked, ending)
    | none => pure (split asked)
  if List.contains ending '/' then
    fail 1 ("invalid suffix " ++ quote ending ++ ", contains directory separator")
  let found := ofText body ending
  if found.count < 3 then fail 1 ("too few X's in template " ++ quote (body ++ ending))
  if given.operands.isEmpty || given.has 'p' || given.has 't' then
    if given.has 't' then
      if List.contains asked '/' then
        fail 1 ("invalid template, " ++ quote asked ++ ", contains directory separator")
    else if asked.head? == some '/' then
      fail 1 ("invalid template, " ++ quote asked ++ "; with --tmpdir, it may not be absolute")
    let directory ← directoryFrom (given.value? 'p')
    return { found with front := inDirectory directory found.front }
  return found

end Temporary

def mktemp : Program := fun arguments => do
  let given ← given 1
    { letters := "dp:qtuV"
      words := [("directory", 'd', .no), ("quiet", 'q', .no), ("dry-run", 'u', .no),
        ("suffix", 's', .yes), ("tmpdir", 'p', .maybe)]
      isOrdered := false } arguments
  if 1 < given.operands.length then misuse 1 "too many templates"
  let template ← Temporary.template given
  let files ← files
  let path := template.freePath files 1000 (files.clock * 7919 + files.clock / 1000)
  let made : Except FileError FileTree :=
    if given.has 'u' then .ok files
    else if given.has 'd' then do
      let tree ← files.makeDirectory path
      let (location, _) ← tree.lookup path
      return tree.setAttributes location fun attributes => { attributes with mode := 0o700 }
    else do
      let tree ← files.write path []
      let (location, _) ← tree.lookup path
      return tree.setAttributes location fun attributes => { attributes with mode := 0o600 }
  match made with
  | .ok tree =>
      setFiles tree
      printLine path
  | .error error =>
      if given.has 'q' then exit 1
      let kind : Text := if given.has 'd' then "directory" else "file"
      let shown := template.front ++ List.replicate template.count 'X' ++ template.ending
      fail 1 ("failed to create " ++ kind ++ " via template " ++ quote shown ++ ": " ++
        reason error)

def link : Program := fun arguments => do
  let given ← given 1 ⟨"", [], false⟩ arguments
  match given.operands with
  | [] => misuse 1 "missing operand"
  | [source] => misuse 1 ("missing operand after " ++ quote source)
  | source :: target :: _ =>
      refuseExtra 1 2 given.operands
      let files ← files
      let made : Except Text FileTree := do
        let (_, node) ← (files.lookupLink source).mapError reason
        let location ← (files.locate false target).mapError reason
        if (files.node? location).isSome then throw (reason .alreadyExists)
        if node.isDirectory then throw ("Operation not permitted" : Text)
        return files.put location node
      match made with
      | .ok tree => setFiles tree
      | .error flaw =>
          fail 1 ("cannot create link " ++ quoteName target ++ " to " ++ quoteName source ++ ": " ++
            flaw)

/-!
# Files of a size
-/

namespace Sizing

inductive Change where
  | set
  | more
  | less
  | atMost
  | atLeast
  | down
  | up
deriving DecidableEq, Repr

def Change.ofText (t : Text) : Change × Text :=
  match t.dropWhile isSpace with
  | '+' :: rest => (.more, rest)
  | '-' :: rest => (.less, rest)
  | '<' :: rest => (.atMost, rest.dropWhile isSpace)
  | '>' :: rest => (.atLeast, rest.dropWhile isSpace)
  | '/' :: rest => (.down, rest.dropWhile isSpace)
  | '%' :: rest => (.up, rest.dropWhile isSpace)
  | rest => (.set, rest)

def Change.apply (change : Change) (amount size : Nat) : Nat :=
  match change with
  | .set => amount
  | .more => size + amount
  | .less => size - amount
  | .atMost => min size amount
  | .atLeast => max size amount
  | .down => size / amount * amount
  | .up => (size + amount - 1) / amount * amount

def limit : Nat := Nat.pow 2 24

def resized (size : Nat) (bytes : Utf8.Bytes) : Utf8.Bytes :=
  bytes.take size ++ List.replicate (min size limit - bytes.length) 0

end Sizing

def truncate : Program := fun arguments => do
  let given ← given 1
    { letters := "cor:s:"
      words := [("no-create", 'c', .no), ("io-blocks", 'o', .no), ("reference", 'r', .yes),
        ("size", 's', .yes)]
      isOrdered := false } arguments
  let asked ← match given.value? 's' with
    | none => pure none
    | some t => do
        let (change, rest) := Sizing.Change.ofText t
        match quantity? "EgGkKmMPQRtTYZ0" rest with
        | none => fail 1 ("Invalid number: " ++ quote t)
        | some n =>
            if n == 0 && (change == .down || change == .up) then fail 1 "division by zero"
            pure (some (change, if given.has 'o' then 4096 * n else n))
  let reference := given.value? 'r'
  if reference.isNone && asked.isNone then
    misuse 1 "you must specify either '--size' or '--reference'"
  if reference.isSome && asked.any (·.1 == .set) then
    misuse 1 "you must specify a relative '--size' with '--reference'"
  if given.has 'o' && asked.isNone then
    misuse 1 "'--io-blocks' was specified but '--size' was not"
  if given.operands.isEmpty then misuse 1 "missing file operand"
  let base ← match reference with
    | none => pure none
    | some path =>
        match (← files).lookup path with
        | .error error => fail 1 ("cannot stat " ++ quoteName path ++ ": " ++ reason error)
        | .ok (_, node) => pure (some ((FileTree.bytesOf node).toOption.getD []).length)
  for path in given.operands do
    let files ← files
    let complaint := "cannot open " ++ quoteName path ++ " for writing: "
    match files.lookup path with
    | .ok (_, .file bytes _) =>
        let size := base.getD bytes.length
        let size := match asked with
          | some (change, amount) => change.apply amount size
          | none => size
        match files.write path (Sizing.resized size bytes) with
        | .ok tree => setFiles tree
        | .error error => complain (complaint ++ reason error)
    | .error .notFound =>
        if !given.has 'c' then
          let size := match asked with
            | some (change, amount) => change.apply amount (base.getD 0)
            | none => base.getD 0
          match files.write path (Sizing.resized size []) with
          | .ok tree => setFiles tree
          | .error error => complain (complaint ++ reason error)
    | .ok (_, .directory ..) => complain (complaint ++ reason .isADirectory)
    | .ok _ => pure ()
    | .error error => complain (complaint ++ reason error)

def sync : Program := fun arguments => do
  let given ← given 1
    { letters := "df"
      words := [("data", 'd', .no), ("file-system", 'f', .no)]
      isOrdered := false } arguments
  if given.has 'd' && given.has 'f' then
    fail 1 "cannot specify both --data and --file-system"
  if given.has 'd' && given.operands.isEmpty then fail 1 "--data needs at least one argument"
  for path in given.operands do
    match (← files).lookup path with
    | .ok _ => pure ()
    | .error error => complain ("error opening " ++ quoteName path ++ ": " ++ reason error)

/-!
# Where programs are
-/

def which : Program := fun arguments => do
  let forms : OptionForms := ⟨"as", [], true⟩
  let given ← match forms.read? arguments with
    | .ok (options, operands) => pure (⟨options, operands⟩ : Given)
    | .error _ =>
        let letters := (arguments.filter (·.head? == some '-')).flatMap (·.drop 1)
        let wrong := (letters.find? fun c => !List.contains "as".toList c).getD '-'
        writeTo .complaints ("Illegal option -" ++ [wrong, '\n'])
        printLine "Usage: /usr/bin/which [-as] args"
        exit 2
  if given.operands.isEmpty then setStatus 1
  let search := Text.splitBy (· == ':') (((← surroundings).environment.lookup "PATH".toList).getD [])
  let files ← files
  let isProgram := fun (path : Text) =>
    match files.lookup path with
    | .ok (_, node) => !node.isDirectory && node.isExecutable
    | .error _ => false
  for name in given.operands do
    let paths := if List.contains name '/' then [name]
      else search.map fun directory => (if directory.isEmpty then "." else directory) ++ '/' :: name
    let found := paths.filter isProgram
    if found.isEmpty then setStatus 1
    if !given.has 's' then
      for path in (if given.has 'a' then found else found.take 1) do printLine path

end Program
end Shell
end StubAssist
