import BlockStage.Text.Upper

/-!
# Lower case

Letters go to lower case one by one.
-/

namespace BlockStage.Text

/-- The letters whose lower case is not the first letter that they are the upper case of. -/
def lowerRuns : List CaseRun :=
  readCaseRuns "d;#'##%%#'##%%#'##%PA#'##%c+#P7'#P7/#P7R?#QBVX-#WQ(Y=*23*23*2;#4A#4Q)#4]9#Vx@)#Wu$##Wo:tP
##%"

/-- The lower case of a letter beyond ASCII. -/
def lowered? (c : Char) : Option Char :=
  (shifted? lowerRuns c).or ((caseRuns.find? fun r => r.holds (c.toNat - r.shift : Int).toNat).map fun r =>
    Char.ofNat (c.toNat - r.shift : Int).toNat)

def lowerChar (c : Char) : List Char :=
  if c.toNat < 128 then [c.toLower]
  else if c.toNat = 0x130 then ['i', Char.ofNat 0x307]
  else [(lowered? c).getD c]

/-- `str.lower` -/
def lower (s : String) : String := String.ofList (s.toList.flatMap lowerChar)

end BlockStage.Text
