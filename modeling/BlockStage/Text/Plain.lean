import BlockStage.Text.Upper

/-!
# Plain letters

Letters and digits of another style, and letters that are written as one, stand for the plain ones.
-/

namespace BlockStage.Text

/-- Characters of another style that follow each other as the plain ones do. -/
def styledRuns : List CaseRun :=
  readCaseRuns "VC#R0A#R4WK#[*]G#j:%#j:##j,)#j*##j(PG#l<##l0##l(VSG#Vs8%#Vs:%$Vs:%*Vs:%#Vs<%#Vs>##Vs
<#$Vs:##Vs8##Vs&)#Vs,#$Vs*)#Vs.%#Vs*##Vs(%#Vs()#Vs.#$Vs('#Vs,/#Vt(##VsD#$Vs@Q7#Vw$)#Vw&P+#Vw4o9#WlB=
#Wm(C#Wn8##Wn2##WmL##Wm<%#Wn4#&Wn0##Wn.#$Wn*S=#Wu$1#WsD##Wu,##Wu.##Wu0##WsJ%#Wu4##Wu6##Wu2##WsL%#Wu4
)%Wu8##Wu:##Wu</#Wu:)#WuB%#Wv8%$WvN%#Wu:#$Ww$%#WvF##Wu0+#WuF9#Wx$#$Wv>#$Wv8P##Wy$)#Wx>+#WxD'#Wy6#$Wy
J##Wy:##Wx0)#WwJ+#Wx$'#WxB#$Wy*##WxFQyG#ZwF##ZxDqa;#PQ`,##PQ`(##PQ_@g^;#Pim>##Pim@P'#PinF##PinH##Pin
JWC,PiyF1<PiyF+#PiyF%<PiyFQY7#PlXBP[[K<QxhH#<Qxh<#<Qxk,#)QxjL%4QxjL#<Qxm<#<Qxm0##QxoL%$QxoL'#QxoL'$Q
xoL'&QxoL%*QxoL#&Qxo@%#Qxo@%)Qxo@%-Qxo@#<Qxr0#<Qxr$#$Qxt@%&Qxt@'*Qxt@%)Qxt@%<Qxt4#$Qxw$%&Qxw$%'Qxw$%
#Qxw$))Qxw$%<QxvD#<Qxy4#<Qxy(#<QyOD#<QyO8#<QyR(#<QyQH#<QyT8#<QyT,#<QyVH#<QyV<#<QyY,#<QyXL];,QyjJ#,Qy
k2#,QykF#,Qyl.#,QylBXo+,RWa2"

/-- Letters that are written as one, for the codes from the one that is given on. -/
def joined : List (Nat × String) := [
  (0x132, "IJ ij"), (0x1C7, "LJ Lj lj NJ Nj nj"), (0x1F1, "DZ Dz dz"), (0x2161, "II III IV"),
  (0x2165, "VI VII VIII IX"), (0x216A, "XI XII"), (0x2171, "ii iii iv"),
  (0x2175, "vi vii viii ix"), (0x217A, "xi xii"), (0xFB00, "ff fi fl ffi ffl st st")]

/-- What a character stands for. -/
def plain (c : Char) : List Char :=
  let word? := joined.findSome? fun (first, words) =>
    if first ≤ c.toNat then (words.splitOn " ")[c.toNat - first]? else none
  (word?.map String.toList).getD [(shifted? styledRuns c).getD c]

end BlockStage.Text
