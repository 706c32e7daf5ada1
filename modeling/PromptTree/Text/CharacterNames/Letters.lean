/-!
# Names of letters

The names of Unicode 14 for code points below 0x2000:
letters, and the signs that go with them.

## Main Definitions

* `letterNames` — the names of the characters of each run of code points.

## Design Notes

A name begins with a small letter that tells how many parts it has in common with the name
before it in the run, from `a` for none on; the other parts follow.  A part begins at a space
or at a hyphen.
-/

namespace PromptTree.Text

/-- The names of runs of code points, each run with its first code point. -/
def letterNames : List (Nat × List String) :=
  [(0x20, ["aSPACEaEXCLAMATION MARKaQUOTATION MARKaNUMBER SIGNaDOLLAR SIGNaPERCENT SIGN",
      "aAMPERSANDaAPOSTROPHEaLEFT PARENTHESISaRIGHT PARENTHESISaASTERISKaPLUS SIGNaCOMMA",
      "aHYPHEN-MINUSaFULL STOPaSOLIDUSaDIGIT ZEROb ONEb TWOb THREEb FOURb FIVEb SIXb SEVEN",
      "b EIGHTb NINEaCOLONaSEMICOLONaLESS-THAN SIGNaEQUALS SIGNaGREATER-THAN SIGNaQUESTION MARK",
      "aCOMMERCIAL ATaLATIN CAPITAL LETTER Ad Bd Cd Dd Ed Fd Gd Hd Id Jd Kd Ld Md Nd Od Pd Qd R",
      "d Sd Td Ud Vd Wd Xd Yd ZaLEFT SQUARE BRACKETaREVERSE SOLIDUSaRIGHT SQUARE BRACKET",
      "aCIRCUMFLEX ACCENTaLOW LINEaGRAVE ACCENTaLATIN SMALL LETTER Ad Bd Cd Dd Ed Fd Gd Hd Id J",
      "d Kd Ld Md Nd Od Pd Qd Rd Sd Td Ud Vd Wd Xd Yd ZaLEFT CURLY BRACKETaVERTICAL LINE",
      "aRIGHT CURLY BRACKETaTILDE"]),
   (0xA0, ["aNO-BREAK SPACEaINVERTED EXCLAMATION MARKaCENT SIGNaPOUND SIGNaCURRENCY SIGN",
      "aYEN SIGNaBROKEN BARaSECTION SIGNaDIAERESISaCOPYRIGHT SIGNaFEMININE ORDINAL INDICATOR",
      "aLEFT-POINTING DOUBLE ANGLE QUOTATION MARKaNOT SIGNaSOFT HYPHENaREGISTERED SIGNaMACRON",
      "aDEGREE SIGNaPLUS-MINUS SIGNaSUPERSCRIPT TWOb THREEaACUTE ACCENTaMICRO SIGNaPILCROW SIGN",
      "aMIDDLE DOTaCEDILLAaSUPERSCRIPT ONEaMASCULINE ORDINAL INDICATOR",
      "aRIGHT-POINTING DOUBLE ANGLE QUOTATION MARKaVULGAR FRACTION ONE QUARTERd HALF",
      "c THREE QUARTERSaINVERTED QUESTION MARKaLATIN CAPITAL LETTER A WITH GRAVEf ACUTE",
      "f CIRCUMFLEXf TILDEf DIAERESISf RING ABOVEd AEd C WITH CEDILLAd E WITH GRAVEf ACUTE",
      "f CIRCUMFLEXf DIAERESISd I WITH GRAVEf ACUTEf CIRCUMFLEXf DIAERESISd ETHd N WITH TILDE",
      "d O WITH GRAVEf ACUTEf CIRCUMFLEXf TILDEf DIAERESISaMULTIPLICATION SIGN",
      "aLATIN CAPITAL LETTER O WITH STROKEd U WITH GRAVEf ACUTEf CIRCUMFLEXf DIAERESIS",
      "d Y WITH ACUTEd THORNb SMALL LETTER SHARP Sd A WITH GRAVEf ACUTEf CIRCUMFLEXf TILDE",
      "f DIAERESISf RING ABOVEd AEd C WITH CEDILLAd E WITH GRAVEf ACUTEf CIRCUMFLEXf DIAERESIS",
      "d I WITH GRAVEf ACUTEf CIRCUMFLEXf DIAERESISd ETHd N WITH TILDEd O WITH GRAVEf ACUTE",
      "f CIRCUMFLEXf TILDEf DIAERESISaDIVISION SIGNaLATIN SMALL LETTER O WITH STROKE",
      "d U WITH GRAVEf ACUTEf CIRCUMFLEXf DIAERESISd Y WITH ACUTEd THORNd Y WITH DIAERESIS",
      "b CAPITAL LETTER A WITH MACRONb SMALL LETTER A WITH MACRONb CAPITAL LETTER A WITH BREVE",
      "b SMALL LETTER A WITH BREVEb CAPITAL LETTER A WITH OGONEKb SMALL LETTER A WITH OGONEK",
      "b CAPITAL LETTER C WITH ACUTEb SMALL LETTER C WITH ACUTE",
      "b CAPITAL LETTER C WITH CIRCUMFLEXb SMALL LETTER C WITH CIRCUMFLEX",
      "b CAPITAL LETTER C WITH DOT ABOVEb SMALL LETTER C WITH DOT ABOVE",
      "b CAPITAL LETTER C WITH CARONb SMALL LETTER C WITH CARONb CAPITAL LETTER D WITH CARON",
      "b SMALL LETTER D WITH CARONb CAPITAL LETTER D WITH STROKEb SMALL LETTER D WITH STROKE",
      "b CAPITAL LETTER E WITH MACRONb SMALL LETTER E WITH MACRONb CAPITAL LETTER E WITH BREVE",
      "b SMALL LETTER E WITH BREVEb CAPITAL LETTER E WITH DOT ABOVE",
      "b SMALL LETTER E WITH DOT ABOVEb CAPITAL LETTER E WITH OGONEK",
      "b SMALL LETTER E WITH OGONEKb CAPITAL LETTER E WITH CARONb SMALL LETTER E WITH CARON",
      "b CAPITAL LETTER G WITH CIRCUMFLEXb SMALL LETTER G WITH CIRCUMFLEX",
      "b CAPITAL LETTER G WITH BREVEb SMALL LETTER G WITH BREVE",
      "b CAPITAL LETTER G WITH DOT ABOVEb SMALL LETTER G WITH DOT ABOVE",
      "b CAPITAL LETTER G WITH CEDILLAb SMALL LETTER G WITH CEDILLA",
      "b CAPITAL LETTER H WITH CIRCUMFLEXb SMALL LETTER H WITH CIRCUMFLEX",
      "b CAPITAL LETTER H WITH STROKEb SMALL LETTER H WITH STROKEb CAPITAL LETTER I WITH TILDE",
      "b SMALL LETTER I WITH TILDEb CAPITAL LETTER I WITH MACRONb SMALL LETTER I WITH MACRON",
      "b CAPITAL LETTER I WITH BREVEb SMALL LETTER I WITH BREVEb CAPITAL LETTER I WITH OGONEK",
      "b SMALL LETTER I WITH OGONEKb CAPITAL LETTER I WITH DOT ABOVEb SMALL LETTER DOTLESS I",
      "b CAPITAL LIGATURE IJb SMALL LIGATURE IJb CAPITAL LETTER J WITH CIRCUMFLEX",
      "b SMALL LETTER J WITH CIRCUMFLEXb CAPITAL LETTER K WITH CEDILLA",
      "b SMALL LETTER K WITH CEDILLAd KRAb CAPITAL LETTER L WITH ACUTE",
      "b SMALL LETTER L WITH ACUTEb CAPITAL LETTER L WITH CEDILLAb SMALL LETTER L WITH CEDILLA",
      "b CAPITAL LETTER L WITH CARONb SMALL LETTER L WITH CARON",
      "b CAPITAL LETTER L WITH MIDDLE DOTb SMALL LETTER L WITH MIDDLE DOT",
      "b CAPITAL LETTER L WITH STROKEb SMALL LETTER L WITH STROKEb CAPITAL LETTER N WITH ACUTE",
      "b SMALL LETTER N WITH ACUTEb CAPITAL LETTER N WITH CEDILLAb SMALL LETTER N WITH CEDILLA",
      "b CAPITAL LETTER N WITH CARONb SMALL LETTER N WITH CARONe PRECEDED BY APOSTROPHE",
      "b CAPITAL LETTER ENGb SMALL LETTER ENGb CAPITAL LETTER O WITH MACRON",
      "b SMALL LETTER O WITH MACRONb CAPITAL LETTER O WITH BREVEb SMALL LETTER O WITH BREVE",
      "b CAPITAL LETTER O WITH DOUBLE ACUTEb SMALL LETTER O WITH DOUBLE ACUTE",
      "b CAPITAL LIGATURE OEb SMALL LIGATURE OEb CAPITAL LETTER R WITH ACUTE",
      "b SMALL LETTER R WITH ACUTEb CAPITAL LETTER R WITH CEDILLAb SMALL LETTER R WITH CEDILLA",
      "b CAPITAL LETTER R WITH CARONb SMALL LETTER R WITH CARONb CAPITAL LETTER S WITH ACUTE",
      "b SMALL LETTER S WITH ACUTEb CAPITAL LETTER S WITH CIRCUMFLEX",
      "b SMALL LETTER S WITH CIRCUMFLEXb CAPITAL LETTER S WITH CEDILLA",
      "b SMALL LETTER S WITH CEDILLAb CAPITAL LETTER S WITH CARONb SMALL LETTER S WITH CARON",
      "b CAPITAL LETTER T WITH CEDILLAb SMALL LETTER T WITH CEDILLA",
      "b CAPITAL LETTER T WITH CARONb SMALL LETTER T WITH CARONb CAPITAL LETTER T WITH STROKE",
      "b SMALL LETTER T WITH STROKEb CAPITAL LETTER U WITH TILDEb SMALL LETTER U WITH TILDE",
      "b CAPITAL LETTER U WITH MACRONb SMALL LETTER U WITH MACRONb CAPITAL LETTER U WITH BREVE",
      "b SMALL LETTER U WITH BREVEb CAPITAL LETTER U WITH RING ABOVE",
      "b SMALL LETTER U WITH RING ABOVEb CAPITAL LETTER U WITH DOUBLE ACUTE",
      "b SMALL LETTER U WITH DOUBLE ACUTEb CAPITAL LETTER U WITH OGONEK",
      "b SMALL LETTER U WITH OGONEKb CAPITAL LETTER W WITH CIRCUMFLEX",
      "b SMALL LETTER W WITH CIRCUMFLEXb CAPITAL LETTER Y WITH CIRCUMFLEX",
      "b SMALL LETTER Y WITH CIRCUMFLEXb CAPITAL LETTER Y WITH DIAERESISd Z WITH ACUTE",
      "b SMALL LETTER Z WITH ACUTEb CAPITAL LETTER Z WITH DOT ABOVE",
      "b SMALL LETTER Z WITH DOT ABOVEb CAPITAL LETTER Z WITH CARONb SMALL LETTER Z WITH CARON",
      "d LONG Sd B WITH STROKEb CAPITAL LETTER B WITH HOOKf TOPBARb SMALL LETTER B WITH TOPBAR",
      "b CAPITAL LETTER TONE SIXb SMALL LETTER TONE SIXb CAPITAL LETTER OPEN Od C WITH HOOK",
      "b SMALL LETTER C WITH HOOKb CAPITAL LETTER AFRICAN Dd D WITH HOOKf TOPBAR",
      "b SMALL LETTER D WITH TOPBARd TURNED DELTAb CAPITAL LETTER REVERSED Ed SCHWAd OPEN E",
      "d F WITH HOOKb SMALL LETTER F WITH HOOKb CAPITAL LETTER G WITH HOOKd GAMMA",
      "b SMALL LETTER HVb CAPITAL LETTER IOTAd I WITH STROKEd K WITH HOOK",
      "b SMALL LETTER K WITH HOOKd L WITH BARd LAMBDA WITH STROKEb CAPITAL LETTER TURNED M",
      "d N WITH LEFT HOOKb SMALL LETTER N WITH LONG RIGHT LEG",
      "b CAPITAL LETTER O WITH MIDDLE TILDEf HORNb SMALL LETTER O WITH HORNb CAPITAL LETTER OI",
      "b SMALL LETTER OIb CAPITAL LETTER P WITH HOOKb SMALL LETTER P WITH HOOKb LETTER YR",
      "b CAPITAL LETTER TONE TWOb SMALL LETTER TONE TWOb CAPITAL LETTER ESH",
      "b LETTER REVERSED ESH LOOPb SMALL LETTER T WITH PALATAL HOOKb CAPITAL LETTER T WITH HOOK",
      "b SMALL LETTER T WITH HOOKb CAPITAL LETTER T WITH RETROFLEX HOOKd U WITH HORN",
      "b SMALL LETTER U WITH HORNb CAPITAL LETTER UPSILONd V WITH HOOKd Y WITH HOOK",
      "b SMALL LETTER Y WITH HOOKb CAPITAL LETTER Z WITH STROKEb SMALL LETTER Z WITH STROKE",
      "b CAPITAL LETTER EZHe REVERSEDb SMALL LETTER EZH REVERSEDe WITH TAIL",
      "b LETTER TWO WITH STROKEb CAPITAL LETTER TONE FIVEb SMALL LETTER TONE FIVE",
      "b LETTER INVERTED GLOTTAL STOP WITH STROKEc WYNNc DENTAL CLICKc LATERAL CLICK",
      "c ALVEOLAR CLICKc RETROFLEX CLICKb CAPITAL LETTER DZ WITH CARON",
      "d D WITH SMALL LETTER Z WITH CARONb SMALL LETTER DZ WITH CARONb CAPITAL LETTER LJ",
      "d L WITH SMALL LETTER Jb SMALL LETTER LJb CAPITAL LETTER NJd N WITH SMALL LETTER J",
      "b SMALL LETTER NJb CAPITAL LETTER A WITH CARONb SMALL LETTER A WITH CARON",
      "b CAPITAL LETTER I WITH CARONb SMALL LETTER I WITH CARONb CAPITAL LETTER O WITH CARON",
      "b SMALL LETTER O WITH CARONb CAPITAL LETTER U WITH CARONb SMALL LETTER U WITH CARON",
      "b CAPITAL LETTER U WITH DIAERESIS AND MACRONb SMALL LETTER U WITH DIAERESIS AND MACRON",
      "b CAPITAL LETTER U WITH DIAERESIS AND ACUTEb SMALL LETTER U WITH DIAERESIS AND ACUTE",
      "b CAPITAL LETTER U WITH DIAERESIS AND CARONb SMALL LETTER U WITH DIAERESIS AND CARON",
      "b CAPITAL LETTER U WITH DIAERESIS AND GRAVEb SMALL LETTER U WITH DIAERESIS AND GRAVE",
      "d TURNED Eb CAPITAL LETTER A WITH DIAERESIS AND MACRON",
      "b SMALL LETTER A WITH DIAERESIS AND MACRONb CAPITAL LETTER A WITH DOT ABOVE AND MACRON",
      "b SMALL LETTER A WITH DOT ABOVE AND MACRONb CAPITAL LETTER AE WITH MACRON",
      "b SMALL LETTER AE WITH MACRONb CAPITAL LETTER G WITH STROKEb SMALL LETTER G WITH STROKE",
      "b CAPITAL LETTER G WITH CARONb SMALL LETTER G WITH CARONb CAPITAL LETTER K WITH CARON",
      "b SMALL LETTER K WITH CARONb CAPITAL LETTER O WITH OGONEKb SMALL LETTER O WITH OGONEK",
      "b CAPITAL LETTER O WITH OGONEK AND MACRONb SMALL LETTER O WITH OGONEK AND MACRON",
      "b CAPITAL LETTER EZH WITH CARONb SMALL LETTER EZH WITH CARONd J WITH CARON",
      "b CAPITAL LETTER DZd D WITH SMALL LETTER Zb SMALL LETTER DZb CAPITAL LETTER G WITH ACUTE",
      "b SMALL LETTER G WITH ACUTEb CAPITAL LETTER HWAIRd WYNNd N WITH GRAVE",
      "b SMALL LETTER N WITH GRAVEb CAPITAL LETTER A WITH RING ABOVE AND ACUTE",
      "b SMALL LETTER A WITH RING ABOVE AND ACUTEb CAPITAL LETTER AE WITH ACUTE",
      "b SMALL LETTER AE WITH ACUTEb CAPITAL LETTER O WITH STROKE AND ACUTE",
      "b SMALL LETTER O WITH STROKE AND ACUTEb CAPITAL LETTER A WITH DOUBLE GRAVE",
      "b SMALL LETTER A WITH DOUBLE GRAVEb CAPITAL LETTER A WITH INVERTED BREVE",
      "b SMALL LETTER A WITH INVERTED BREVEb CAPITAL LETTER E WITH DOUBLE GRAVE",
      "b SMALL LETTER E WITH DOUBLE GRAVEb CAPITAL LETTER E WITH INVERTED BREVE",
      "b SMALL LETTER E WITH INVERTED BREVEb CAPITAL LETTER I WITH DOUBLE GRAVE",
      "b SMALL LETTER I WITH DOUBLE GRAVEb CAPITAL LETTER I WITH INVERTED BREVE",
      "b SMALL LETTER I WITH INVERTED BREVEb CAPITAL LETTER O WITH DOUBLE GRAVE",
      "b SMALL LETTER O WITH DOUBLE GRAVEb CAPITAL LETTER O WITH INVERTED BREVE",
      "b SMALL LETTER O WITH INVERTED BREVEb CAPITAL LETTER R WITH DOUBLE GRAVE",
      "b SMALL LETTER R WITH DOUBLE GRAVEb CAPITAL LETTER R WITH INVERTED BREVE",
      "b SMALL LETTER R WITH INVERTED BREVEb CAPITAL LETTER U WITH DOUBLE GRAVE",
      "b SMALL LETTER U WITH DOUBLE GRAVEb CAPITAL LETTER U WITH INVERTED BREVE",
      "b SMALL LETTER U WITH INVERTED BREVEb CAPITAL LETTER S WITH COMMA BELOW",
      "b SMALL LETTER S WITH COMMA BELOWb CAPITAL LETTER T WITH COMMA BELOW",
      "b SMALL LETTER T WITH COMMA BELOWb CAPITAL LETTER YOGHb SMALL LETTER YOGH",
      "b CAPITAL LETTER H WITH CARONb SMALL LETTER H WITH CARON",
      "b CAPITAL LETTER N WITH LONG RIGHT LEGb SMALL LETTER D WITH CURLb CAPITAL LETTER OU",
      "b SMALL LETTER OUb CAPITAL LETTER Z WITH HOOKb SMALL LETTER Z WITH HOOK",
      "b CAPITAL LETTER A WITH DOT ABOVEb SMALL LETTER A WITH DOT ABOVE",
      "b CAPITAL LETTER E WITH CEDILLAb SMALL LETTER E WITH CEDILLA",
      "b CAPITAL LETTER O WITH DIAERESIS AND MACRONb SMALL LETTER O WITH DIAERESIS AND MACRON",
      "b CAPITAL LETTER O WITH TILDE AND MACRONb SMALL LETTER O WITH TILDE AND MACRON",
      "b CAPITAL LETTER O WITH DOT ABOVEb SMALL LETTER O WITH DOT ABOVE",
      "b CAPITAL LETTER O WITH DOT ABOVE AND MACRONb SMALL LETTER O WITH DOT ABOVE AND MACRON",
      "b CAPITAL LETTER Y WITH MACRONb SMALL LETTER Y WITH MACRONd L WITH CURLd N WITH CURL",
      "d T WITH CURLd DOTLESS Jd DB DIGRAPHd QP DIGRAPHb CAPITAL LETTER A WITH STROKE",
      "d C WITH STROKEb SMALL LETTER C WITH STROKEb CAPITAL LETTER L WITH BAR",
      "d T WITH DIAGONAL STROKEb SMALL LETTER S WITH SWASH TAILd Z WITH SWASH TAIL",
      "b CAPITAL LETTER GLOTTAL STOPb SMALL LETTER GLOTTAL STOPb CAPITAL LETTER B WITH STROKE",
      "d U BARd TURNED Vd E WITH STROKEb SMALL LETTER E WITH STROKE",
      "b CAPITAL LETTER J WITH STROKEb SMALL LETTER J WITH STROKE",
      "b CAPITAL LETTER SMALL Q WITH HOOK TAILb SMALL LETTER Q WITH HOOK TAIL",
      "b CAPITAL LETTER R WITH STROKEb SMALL LETTER R WITH STROKEb CAPITAL LETTER Y WITH STROKE",
      "b SMALL LETTER Y WITH STROKEd TURNED Ad ALPHAd TURNED ALPHAd B WITH HOOKd OPEN O",
      "d C WITH CURLd D WITH TAILf HOOKd REVERSED Ed SCHWAe WITH HOOKd OPEN Ed REVERSED OPEN E",
      "g WITH HOOKd CLOSED REVERSED OPEN Ed DOTLESS J WITH STROKEd G WITH HOOKd SCRIPT G",
      "b LETTER SMALL CAPITAL Gb SMALL LETTER GAMMAd RAMS HORNd TURNED Hd H WITH HOOK",
      "d HENG WITH HOOKd I WITH STROKEd IOTAb LETTER SMALL CAPITAL I",
      "b SMALL LETTER L WITH MIDDLE TILDEf BELTf RETROFLEX HOOKd LEZHd TURNED Mf WITH LONG LEG",
      "d M WITH HOOKd N WITH LEFT HOOKf RETROFLEX HOOKb LETTER SMALL CAPITAL N",
      "b SMALL LETTER BARRED Ob LETTER SMALL CAPITAL OEb SMALL LETTER CLOSED OMEGAd PHI",
      "d TURNED Rf WITH LONG LEGg HOOKd R WITH LONG LEGf TAILf FISHHOOK",
      "d REVERSED R WITH FISHHOOKb LETTER SMALL CAPITAL Re INVERTED Rb SMALL LETTER S WITH HOOK",
      "d ESHd DOTLESS J WITH STROKE AND HOOKd SQUAT REVERSED ESHd ESH WITH CURLd TURNED T",
      "d T WITH RETROFLEX HOOKd U BARd UPSILONd V WITH HOOKd TURNED Ve We Y",
      "b LETTER SMALL CAPITAL Yb SMALL LETTER Z WITH RETROFLEX HOOKf CURLd EZHe WITH CURL",
      "b LETTER GLOTTAL STOPc PHARYNGEAL VOICED FRICATIVEc INVERTED GLOTTAL STOPc STRETCHED C",
      "c BILABIAL CLICKc SMALL CAPITAL Bb SMALL LETTER CLOSED OPEN E",
      "b LETTER SMALL CAPITAL G WITH HOOKe Hb SMALL LETTER J WITH CROSSED-TAILd TURNED K",
      "b LETTER SMALL CAPITAL Lb SMALL LETTER Q WITH HOOKb LETTER GLOTTAL STOP WITH STROKE",
      "c REVERSED GLOTTAL STOP WITH STROKEb SMALL LETTER DZ DIGRAPHd DEZH DIGRAPH",
      "d DZ DIGRAPH WITH CURLd TS DIGRAPHd TESH DIGRAPHd TC DIGRAPH WITH CURLd FENG DIGRAPH",
      "d LS DIGRAPHd LZ DIGRAPHb LETTER BILABIAL PERCUSSIVEc BIDENTAL PERCUSSIVE",
      "b SMALL LETTER TURNED H WITH FISHHOOKh AND TAILaMODIFIER LETTER SMALL He WITH HOOKd Jd R",
      "d TURNED Rf WITH HOOKd CAPITAL INVERTED Rd Wd Yc PRIMEc DOUBLE PRIMEc TURNED COMMA",
      "c APOSTROPHEc REVERSED COMMAc RIGHT HALF RINGc LEFT HALF RINGc GLOTTAL STOP",
      "c REVERSED GLOTTAL STOPc LEFT ARROWHEADc RIGHT ARROWHEADc UP ARROWHEADc DOWN ARROWHEAD",
      "c CIRCUMFLEX ACCENTaCARONaMODIFIER LETTER VERTICAL LINEc MACRONc ACUTE ACCENT",
      "c GRAVE ACCENTc LOW VERTICAL LINEd MACRONd GRAVE ACCENTd ACUTE ACCENTc TRIANGULAR COLON",
      "c HALF TRIANGULAR COLONc CENTRED RIGHT HALF RINGd LEFT HALF RINGc UP TACKc DOWN TACK",
      "c PLUS SIGNc MINUS SIGNaBREVEaDOT ABOVEaRING ABOVEaOGONEKaSMALL TILDE",
      "aDOUBLE ACUTE ACCENTaMODIFIER LETTER RHOTIC HOOKc CROSS ACCENTc SMALL GAMMAd Ld Sd X",
      "d REVERSED GLOTTAL STOPc EXTRA-HIGH TONE BARc HIGH TONE BARc MID TONE BARc LOW TONE BAR",
      "c EXTRA-LOW TONE BARc YIN DEPARTING TONE MARKc YANG DEPARTING TONE MARKc VOICING",
      "c UNASPIRATEDc DOUBLE APOSTROPHEc LOW DOWN ARROWHEADd UP ARROWHEADd LEFT ARROWHEAD",
      "d RIGHT ARROWHEADd RINGc MIDDLE GRAVE ACCENTd DOUBLE GRAVE ACCENTe ACUTE ACCENT",
      "c LOW TILDEc RAISED COLONc BEGIN HIGH TONEc END HIGH TONEc BEGIN LOW TONEc END LOW TONE",
      "c SHELFc OPEN SHELFc LOW LEFT ARROWaCOMBINING GRAVE ACCENTb ACUTE ACCENT",
      "b CIRCUMFLEX ACCENTb TILDEb MACRONb OVERLINEb BREVEb DOT ABOVEb DIAERESISb HOOK ABOVE",
      "b RING ABOVEb DOUBLE ACUTE ACCENTb CARONb VERTICAL LINE ABOVE",
      "b DOUBLE VERTICAL LINE ABOVEc GRAVE ACCENTb CANDRABINDUb INVERTED BREVE",
      "b TURNED COMMA ABOVEb COMMA ABOVEb REVERSED COMMA ABOVEb COMMA ABOVE RIGHT",
      "b GRAVE ACCENT BELOWb ACUTE ACCENT BELOWb LEFT TACK BELOWb RIGHT TACK BELOW",
      "b LEFT ANGLE ABOVEb HORNb LEFT HALF RING BELOWb UP TACK BELOWb DOWN TACK BELOW",
      "b PLUS SIGN BELOWb MINUS SIGN BELOWb PALATALIZED HOOK BELOWb RETROFLEX HOOK BELOW",
      "b DOT BELOWb DIAERESIS BELOWb RING BELOWb COMMA BELOWb CEDILLAb OGONEK",
      "b VERTICAL LINE BELOWb BRIDGE BELOWb INVERTED DOUBLE ARCH BELOWb CARON BELOW",
      "b CIRCUMFLEX ACCENT BELOWb BREVE BELOWb INVERTED BREVE BELOWb TILDE BELOWb MACRON BELOW",
      "b LOW LINEb DOUBLE LOW LINEb TILDE OVERLAYb SHORT STROKE OVERLAYb LONG STROKE OVERLAY",
      "b SHORT SOLIDUS OVERLAYb LONG SOLIDUS OVERLAYb RIGHT HALF RING BELOW",
      "b INVERTED BRIDGE BELOWb SQUARE BELOWb SEAGULL BELOWb X ABOVEb VERTICAL TILDE",
      "b DOUBLE OVERLINEb GRAVE TONE MARKb ACUTE TONE MARKb GREEK PERISPOMENIc KORONIS",
      "c DIALYTIKA TONOSc YPOGEGRAMMENIb BRIDGE ABOVEb EQUALS SIGN BELOW",
      "b DOUBLE VERTICAL LINE BELOWb LEFT ANGLE BELOWb NOT TILDE ABOVEb HOMOTHETIC ABOVE",
      "b ALMOST EQUAL TO ABOVEb LEFT RIGHT ARROW BELOWb UPWARDS ARROW BELOWb GRAPHEME JOINER",
      "b RIGHT ARROWHEAD ABOVEb LEFT HALF RING ABOVEb FERMATAb X BELOWb LEFT ARROWHEAD BELOW",
      "b RIGHT ARROWHEAD BELOWd AND UP ARROWHEAD BELOWc HALF RING ABOVEb DOT ABOVE RIGHT",
      "b ASTERISK BELOWb DOUBLE RING BELOWb ZIGZAG ABOVEb DOUBLE BREVE BELOWdc MACRONd BELOW",
      "c TILDEc INVERTED BREVEc RIGHTWARDS ARROW BELOWb LATIN SMALL LETTER Ae Ee Ie Oe Ue Ce D",
      "e He Me Re Te Ve XaGREEK CAPITAL LETTER HETAb SMALL LETTER HETA",
      "b CAPITAL LETTER ARCHAIC SAMPIb SMALL LETTER ARCHAIC SAMPIb NUMERAL SIGN",
      "b LOWER NUMERAL SIGNb CAPITAL LETTER PAMPHYLIAN DIGAMMAb SMALL LETTER PAMPHYLIAN DIGAMMA"]),
   (0x37A, ["aGREEK YPOGEGRAMMENIb SMALL REVERSED LUNATE SIGMA SYMBOL",
      "c DOTTED LUNATE SIGMA SYMBOLc REVERSED DOTTED LUNATE SIGMA SYMBOLb QUESTION MARK",
      "b CAPITAL LETTER YOT"]),
   (0x384, ["aGREEK TONOSb DIALYTIKA TONOSb CAPITAL LETTER ALPHA WITH TONOSb ANO TELEIA",
      "b CAPITAL LETTER EPSILON WITH TONOSd ETA WITH TONOSd IOTA WITH TONOS"]),
   (0x38C, ["aGREEK CAPITAL LETTER OMICRON WITH TONOS"]),
   (0x38E, ["aGREEK CAPITAL LETTER UPSILON WITH TONOSd OMEGA WITH TONOS",
      "b SMALL LETTER IOTA WITH DIALYTIKA AND TONOSb CAPITAL LETTER ALPHAd BETAd GAMMAd DELTA",
      "d EPSILONd ZETAd ETAd THETAd IOTAd KAPPAd LAMDAd MUd NUd XId OMICRONd PId RHO"]),
   (0x3A3, ["aGREEK CAPITAL LETTER SIGMAd TAUd UPSILONd PHId CHId PSId OMEGA",
      "d IOTA WITH DIALYTIKAd UPSILON WITH DIALYTIKAb SMALL LETTER ALPHA WITH TONOS",
      "d EPSILON WITH TONOSd ETA WITH TONOSd IOTA WITH TONOSd UPSILON WITH DIALYTIKA AND TONOS",
      "d ALPHAd BETAd GAMMAd DELTAd EPSILONd ZETAd ETAd THETAd IOTAd KAPPAd LAMDAd MUd NUd XI",
      "d OMICRONd PId RHOd FINAL SIGMAd SIGMAd TAUd UPSILONd PHId CHId PSId OMEGA",
      "d IOTA WITH DIALYTIKAd UPSILON WITH DIALYTIKAd OMICRON WITH TONOSd UPSILON WITH TONOS",
      "d OMEGA WITH TONOSb CAPITAL KAI SYMBOLb BETA SYMBOLb THETA SYMBOL",
      "b UPSILON WITH HOOK SYMBOLd ACUTE AND HOOK SYMBOLd DIAERESIS AND HOOK SYMBOLb PHI SYMBOL",
      "b PI SYMBOLb KAI SYMBOLb LETTER ARCHAIC KOPPAb SMALL LETTER ARCHAIC KOPPAb LETTER STIGMA",
      "b SMALL LETTER STIGMAb LETTER DIGAMMAb SMALL LETTER DIGAMMAb LETTER KOPPA",
      "b SMALL LETTER KOPPAb LETTER SAMPIb SMALL LETTER SAMPIaCOPTIC CAPITAL LETTER SHEI",
      "b SMALL LETTER SHEIb CAPITAL LETTER FEIb SMALL LETTER FEIb CAPITAL LETTER KHEI",
      "b SMALL LETTER KHEIb CAPITAL LETTER HORIb SMALL LETTER HORIb CAPITAL LETTER GANGIA",
      "b SMALL LETTER GANGIAb CAPITAL LETTER SHIMAb SMALL LETTER SHIMAb CAPITAL LETTER DEI",
      "b SMALL LETTER DEIaGREEK KAPPA SYMBOLb RHO SYMBOLb LUNATE SIGMA SYMBOLb LETTER YOT",
      "b CAPITAL THETA SYMBOLb LUNATE EPSILON SYMBOLb REVERSED LUNATE EPSILON SYMBOL",
      "b CAPITAL LETTER SHOb SMALL LETTER SHOb CAPITAL LUNATE SIGMA SYMBOLc LETTER SAN",
      "b SMALL LETTER SANb RHO WITH STROKE SYMBOLb CAPITAL REVERSED LUNATE SIGMA SYMBOL",
      "c DOTTED LUNATE SIGMA SYMBOLc REVERSED DOTTED LUNATE SIGMA SYMBOL",
      "aCYRILLIC CAPITAL LETTER IE WITH GRAVEd IOd DJEd GJEd UKRAINIAN IEd DZE",
      "d BYELORUSSIAN-UKRAINIAN Id YId JEd LJEd NJEd TSHEd KJEd I WITH GRAVEd SHORT Ud DZHEd A",
      "d BEd VEd GHEd DEd IEd ZHEd ZEd Id SHORT Id KAd ELd EMd ENd Od PEd ERd ESd TEd Ud EFd HA",
      "d TSEd CHEd SHAd SHCHAd HARD SIGNd YERUd SOFT SIGNd Ed YUd YAb SMALL LETTER Ad BEd VE",
      "d GHEd DEd IEd ZHEd ZEd Id SHORT Id KAd ELd EMd ENd Od PEd ERd ESd TEd Ud EFd HAd TSE",
      "d CHEd SHAd SHCHAd HARD SIGNd YERUd SOFT SIGNd Ed YUd YAd IE WITH GRAVEd IOd DJEd GJE",
      "d UKRAINIAN IEd DZEd BYELORUSSIAN-UKRAINIAN Id YId JEd LJEd NJEd TSHEd KJEd I WITH GRAVE",
      "d SHORT Ud DZHEb CAPITAL LETTER OMEGAb SMALL LETTER OMEGAb CAPITAL LETTER YAT",
      "b SMALL LETTER YATb CAPITAL LETTER IOTIFIED Eb SMALL LETTER IOTIFIED E",
      "b CAPITAL LETTER LITTLE YUSb SMALL LETTER LITTLE YUSb CAPITAL LETTER IOTIFIED LITTLE YUS",
      "b SMALL LETTER IOTIFIED LITTLE YUSb CAPITAL LETTER BIG YUSb SMALL LETTER BIG YUS",
      "b CAPITAL LETTER IOTIFIED BIG YUSb SMALL LETTER IOTIFIED BIG YUSb CAPITAL LETTER KSI",
      "b SMALL LETTER KSIb CAPITAL LETTER PSIb SMALL LETTER PSIb CAPITAL LETTER FITA",
      "b SMALL LETTER FITAb CAPITAL LETTER IZHITSAb SMALL LETTER IZHITSA",
      "b CAPITAL LETTER IZHITSA WITH DOUBLE GRAVE ACCENT",
      "b SMALL LETTER IZHITSA WITH DOUBLE GRAVE ACCENTb CAPITAL LETTER UKb SMALL LETTER UK",
      "b CAPITAL LETTER ROUND OMEGAb SMALL LETTER ROUND OMEGAb CAPITAL LETTER OMEGA WITH TITLO",
      "b SMALL LETTER OMEGA WITH TITLOb CAPITAL LETTER OTb SMALL LETTER OT",
      "b CAPITAL LETTER KOPPAb SMALL LETTER KOPPAb THOUSANDS SIGNaCOMBINING CYRILLIC TITLO",
      "c PALATALIZATIONc DASIA PNEUMATAc PSILI PNEUMATAc POKRYTIEc HUNDRED THOUSANDS SIGN",
      "c MILLIONS SIGNaCYRILLIC CAPITAL LETTER SHORT I WITH TAIL",
      "b SMALL LETTER SHORT I WITH TAILb CAPITAL LETTER SEMISOFT SIGN",
      "b SMALL LETTER SEMISOFT SIGNb CAPITAL LETTER ER WITH TICKb SMALL LETTER ER WITH TICK",
      "b CAPITAL LETTER GHE WITH UPTURNb SMALL LETTER GHE WITH UPTURN",
      "b CAPITAL LETTER GHE WITH STROKEb SMALL LETTER GHE WITH STROKE",
      "b CAPITAL LETTER GHE WITH MIDDLE HOOKb SMALL LETTER GHE WITH MIDDLE HOOK",
      "b CAPITAL LETTER ZHE WITH DESCENDERb SMALL LETTER ZHE WITH DESCENDER",
      "b CAPITAL LETTER ZE WITH DESCENDERb SMALL LETTER ZE WITH DESCENDER",
      "b CAPITAL LETTER KA WITH DESCENDERb SMALL LETTER KA WITH DESCENDER",
      "b CAPITAL LETTER KA WITH VERTICAL STROKEb SMALL LETTER KA WITH VERTICAL STROKE",
      "b CAPITAL LETTER KA WITH STROKEb SMALL LETTER KA WITH STROKEb CAPITAL LETTER BASHKIR KA",
      "b SMALL LETTER BASHKIR KAb CAPITAL LETTER EN WITH DESCENDER",
      "b SMALL LETTER EN WITH DESCENDERb CAPITAL LIGATURE EN GHEb SMALL LIGATURE EN GHE",
      "b CAPITAL LETTER PE WITH MIDDLE HOOKb SMALL LETTER PE WITH MIDDLE HOOK",
      "b CAPITAL LETTER ABKHASIAN HAb SMALL LETTER ABKHASIAN HA",
      "b CAPITAL LETTER ES WITH DESCENDERb SMALL LETTER ES WITH DESCENDER",
      "b CAPITAL LETTER TE WITH DESCENDERb SMALL LETTER TE WITH DESCENDER",
      "b CAPITAL LETTER STRAIGHT Ub SMALL LETTER STRAIGHT U",
      "b CAPITAL LETTER STRAIGHT U WITH STROKEb SMALL LETTER STRAIGHT U WITH STROKE",
      "b CAPITAL LETTER HA WITH DESCENDERb SMALL LETTER HA WITH DESCENDER",
      "b CAPITAL LIGATURE TE TSEb SMALL LIGATURE TE TSEb CAPITAL LETTER CHE WITH DESCENDER",
      "b SMALL LETTER CHE WITH DESCENDERb CAPITAL LETTER CHE WITH VERTICAL STROKE",
      "b SMALL LETTER CHE WITH VERTICAL STROKEb CAPITAL LETTER SHHAb SMALL LETTER SHHA",
      "b CAPITAL LETTER ABKHASIAN CHEb SMALL LETTER ABKHASIAN CHE",
      "b CAPITAL LETTER ABKHASIAN CHE WITH DESCENDERb SMALL LETTER ABKHASIAN CHE WITH DESCENDER",
      "b LETTER PALOCHKAb CAPITAL LETTER ZHE WITH BREVEb SMALL LETTER ZHE WITH BREVE",
      "b CAPITAL LETTER KA WITH HOOKb SMALL LETTER KA WITH HOOKb CAPITAL LETTER EL WITH TAIL",
      "b SMALL LETTER EL WITH TAILb CAPITAL LETTER EN WITH HOOKb SMALL LETTER EN WITH HOOK",
      "b CAPITAL LETTER EN WITH TAILb SMALL LETTER EN WITH TAILb CAPITAL LETTER KHAKASSIAN CHE",
      "b SMALL LETTER KHAKASSIAN CHEb CAPITAL LETTER EM WITH TAILb SMALL LETTER EM WITH TAIL",
      "d PALOCHKAb CAPITAL LETTER A WITH BREVEb SMALL LETTER A WITH BREVE",
      "b CAPITAL LETTER A WITH DIAERESISb SMALL LETTER A WITH DIAERESISb CAPITAL LIGATURE A IE",
      "b SMALL LIGATURE A IEb CAPITAL LETTER IE WITH BREVEb SMALL LETTER IE WITH BREVE",
      "b CAPITAL LETTER SCHWAb SMALL LETTER SCHWAb CAPITAL LETTER SCHWA WITH DIAERESIS",
      "b SMALL LETTER SCHWA WITH DIAERESISb CAPITAL LETTER ZHE WITH DIAERESIS",
      "b SMALL LETTER ZHE WITH DIAERESISb CAPITAL LETTER ZE WITH DIAERESIS",
      "b SMALL LETTER ZE WITH DIAERESISb CAPITAL LETTER ABKHASIAN DZE",
      "b SMALL LETTER ABKHASIAN DZEb CAPITAL LETTER I WITH MACRONb SMALL LETTER I WITH MACRON",
      "b CAPITAL LETTER I WITH DIAERESISb SMALL LETTER I WITH DIAERESIS",
      "b CAPITAL LETTER O WITH DIAERESISb SMALL LETTER O WITH DIAERESIS",
      "b CAPITAL LETTER BARRED Ob SMALL LETTER BARRED Ob CAPITAL LETTER BARRED O WITH DIAERESIS",
      "b SMALL LETTER BARRED O WITH DIAERESISb CAPITAL LETTER E WITH DIAERESIS",
      "b SMALL LETTER E WITH DIAERESISb CAPITAL LETTER U WITH MACRON",
      "b SMALL LETTER U WITH MACRONb CAPITAL LETTER U WITH DIAERESIS",
      "b SMALL LETTER U WITH DIAERESISb CAPITAL LETTER U WITH DOUBLE ACUTE",
      "b SMALL LETTER U WITH DOUBLE ACUTEb CAPITAL LETTER CHE WITH DIAERESIS",
      "b SMALL LETTER CHE WITH DIAERESISb CAPITAL LETTER GHE WITH DESCENDER",
      "b SMALL LETTER GHE WITH DESCENDERb CAPITAL LETTER YERU WITH DIAERESIS",
      "b SMALL LETTER YERU WITH DIAERESISb CAPITAL LETTER GHE WITH STROKE AND HOOK",
      "b SMALL LETTER GHE WITH STROKE AND HOOKb CAPITAL LETTER HA WITH HOOK",
      "b SMALL LETTER HA WITH HOOKb CAPITAL LETTER HA WITH STROKEb SMALL LETTER HA WITH STROKE",
      "b CAPITAL LETTER KOMI DEb SMALL LETTER KOMI DEb CAPITAL LETTER KOMI DJE",
      "b SMALL LETTER KOMI DJEb CAPITAL LETTER KOMI ZJEb SMALL LETTER KOMI ZJE",
      "b CAPITAL LETTER KOMI DZJEb SMALL LETTER KOMI DZJEb CAPITAL LETTER KOMI LJE",
      "b SMALL LETTER KOMI LJEb CAPITAL LETTER KOMI NJEb SMALL LETTER KOMI NJE",
      "b CAPITAL LETTER KOMI SJEb SMALL LETTER KOMI SJEb CAPITAL LETTER KOMI TJE",
      "b SMALL LETTER KOMI TJEb CAPITAL LETTER REVERSED ZEb SMALL LETTER REVERSED ZE",
      "b CAPITAL LETTER EL WITH HOOKb SMALL LETTER EL WITH HOOKb CAPITAL LETTER LHA",
      "b SMALL LETTER LHAb CAPITAL LETTER RHAb SMALL LETTER RHAb CAPITAL LETTER YAE",
      "b SMALL LETTER YAEb CAPITAL LETTER QAb SMALL LETTER QAb CAPITAL LETTER WE",
      "b SMALL LETTER WEb CAPITAL LETTER ALEUT KAb SMALL LETTER ALEUT KA",
      "b CAPITAL LETTER EL WITH MIDDLE HOOKb SMALL LETTER EL WITH MIDDLE HOOK",
      "b CAPITAL LETTER EN WITH MIDDLE HOOKb SMALL LETTER EN WITH MIDDLE HOOK",
      "b CAPITAL LETTER PE WITH DESCENDERb SMALL LETTER PE WITH DESCENDER",
      "b CAPITAL LETTER SHHA WITH DESCENDERb SMALL LETTER SHHA WITH DESCENDER",
      "b CAPITAL LETTER EN WITH LEFT HOOKb SMALL LETTER EN WITH LEFT HOOKb CAPITAL LETTER DZZHE",
      "b SMALL LETTER DZZHEb CAPITAL LETTER DCHEb SMALL LETTER DCHE",
      "b CAPITAL LETTER EL WITH DESCENDERb SMALL LETTER EL WITH DESCENDER"]),
   (0x531, ["aARMENIAN CAPITAL LETTER AYBd BENd GIMd DAd ECHd ZAd EHd ETd TOd ZHEd INId LIWN",
      "d XEHd CAd KENd HOd JAd GHADd CHEHd MENd YId NOWd SHAd VOd CHAd PEHd JHEHd RAd SEHd VEW",
      "d TIWNd REHd COd YIWNd PIWRd KEHd OHd FEH"]),
   (0x559, ["aARMENIAN MODIFIER LETTER LEFT HALF RINGb APOSTROPHEb EMPHASIS MARK",
      "b EXCLAMATION MARKb COMMAb QUESTION MARKb ABBREVIATION MARKb SMALL LETTER TURNED AYB",
      "d AYBd BENd GIMd DAd ECHd ZAd EHd ETd TOd ZHEd INId LIWNd XEHd CAd KENd HOd JAd GHAD",
      "d CHEHd MENd YId NOWd SHAd VOd CHAd PEHd JHEHd RAd SEHd VEWd TIWNd REHd COd YIWNd PIWR",
      "d KEHd OHd FEHc LIGATURE ECH YIWNc LETTER YI WITH STROKEb FULL STOPb HYPHEN"]),
   (0x58D, ["aRIGHT-FACING ARMENIAN ETERNITY SIGNaLEFT-FACING ARMENIAN ETERNITY SIGN",
      "aARMENIAN DRAM SIGN"]),
   (0x591, ["aHEBREW ACCENT ETNAHTAc SEGOLc SHALSHELETc ZAQEF QATANd GADOLc TIPEHAc REVIA",
      "c ZARQAc PASHTAc YETIVc TEVIRc GERESHd MUQDAMc GERSHAYIMc QARNEY PARAc TELISHA GEDOLA",
      "c PAZERc ATNAH HAFUKHc MUNAHc MAHAPAKHc MERKHAd KEFULAc DARGAc QADMAc TELISHA QETANA",
      "c YERAH BEN YOMOc OLEc ILUYc DEHIc ZINORb MARK MASORA CIRCLEb POINT SHEVAc HATAF SEGOL",
      "d PATAHd QAMATSc HIRIQc TSEREc SEGOLc PATAHc QAMATSc HOLAMd HASER FOR VAVc QUBUTS",
      "c DAGESH OR MAPIQc METEGb PUNCTUATION MAQAFb POINT RAFEb PUNCTUATION PASEQ",
      "b POINT SHIN DOTc SIN DOTb PUNCTUATION SOF PASUQb MARK UPPER DOTc LOWER DOT",
      "b PUNCTUATION NUN HAFUKHAb POINT QAMATS QATAN"]),
   (0x5D0, ["aHEBREW LETTER ALEFc BETc GIMELc DALETc HEc VAVc ZAYINc HETc TETc YODc FINAL KAF",
      "c KAFc LAMEDc FINAL MEMc MEMc FINAL NUNc NUNc SAMEKHc AYINc FINAL PEc PEc FINAL TSADI",
      "c TSADIc QOFc RESHc SHINc TAV"]),
   (0x5EF, ["aHEBREW YOD TRIANGLEb LIGATURE YIDDISH DOUBLE VAVd VAV YODd DOUBLE YOD",
      "b PUNCTUATION GERESHc GERSHAYIM"]),
   (0x600, ["aARABIC NUMBER SIGNb SIGN SANAHb FOOTNOTE MARKERb SIGN SAFHAc SAMVAT",
      "b NUMBER MARK ABOVEb-INDIC CUBE ROOTc FOURTH ROOTb RAYb-INDIC PER MILLE SIGN",
      "d TEN THOUSAND SIGNaAFGHANI SIGNaARABIC COMMAb DATE SEPARATORb POETIC VERSE SIGN",
      "b SIGN MISRAc SALLALLAHOU ALAYHE WASSALLAMc ALAYHE ASSALLAMc RAHMATULLAH ALAYHE",
      "c RADI ALLAHOU ANHUc TAKHALLUSb SMALL HIGH TAHd LIGATURE ALEF WITH LAM WITH YEHd ZAIN",
      "c FATHAc DAMMAc KASRAb SEMICOLONb LETTER MARKb END OF TEXT MARK",
      "b TRIPLE DOT PUNCTUATION MARKb QUESTION MARKb LETTER KASHMIRI YEHc HAMZA",
      "c ALEF WITH MADDA ABOVEe HAMZA ABOVEc WAW WITH HAMZA ABOVEc ALEF WITH HAMZA BELOW",
      "c YEH WITH HAMZA ABOVEc ALEFc BEHc TEH MARBUTAdc THEHc JEEMc HAHc KHAHc DALc THALc REH",
      "c ZAINc SEENc SHEENc SADc DADc TAHc ZAHc AINc GHAINc KEHEH WITH TWO DOTS ABOVE",
      "e THREE DOTS BELOWc FARSI YEH WITH INVERTED Vf TWO DOTS ABOVEf THREE DOTS ABOVEb TATWEEL",
      "b LETTER FEHc QAFc KAFc LAMc MEEMc NOONc HEHc WAWc ALEF MAKSURAc YEHb FATHATANb DAMMATAN",
      "b KASRATANb FATHAb DAMMAb KASRAb SHADDAb SUKUNb MADDAH ABOVEb HAMZA ABOVEc BELOW",
      "b SUBSCRIPT ALEFb INVERTED DAMMAb MARK NOON GHUNNAb ZWARAKAYb VOWEL SIGN SMALL V ABOVE",
      "d INVERTED SMALL V ABOVEd DOT BELOWb REVERSED DAMMAb FATHA WITH TWO DOTS",
      "b WAVY HAMZA BELOWb-INDIC DIGIT ZEROd ONEd TWOd THREEd FOURd FIVEd SIXd SEVENd EIGHT",
      "d NINEb PERCENT SIGNb DECIMAL SEPARATORb THOUSANDS SEPARATORb FIVE POINTED STAR",
      "b LETTER DOTLESS BEHd QAFc SUPERSCRIPT ALEFc ALEF WASLAd WITH WAVY HAMZA ABOVEg BELOW",
      "c HIGH HAMZAe ALEFe WAWc U WITH HAMZA ABOVEc HIGH HAMZA YEHc TTEHc TTEHEHc BEEH",
      "c TEH WITH RINGe THREE DOTS ABOVE DOWNWARDSc PEHc TEHEHc BEHEHc HAH WITH HAMZA ABOVE",
      "e TWO DOTS VERTICAL ABOVEc NYEHc DYEHc HAH WITH THREE DOTS ABOVEc TCHEHc TCHEHEHc DDAL",
      "c DAL WITH RINGe DOT BELOWg AND SMALL TAHc DAHALc DDAHALc DUL",
      "c DAL WITH THREE DOTS ABOVE DOWNWARDSe FOUR DOTS ABOVEc RREHc REH WITH SMALL Ve RING",
      "e DOT BELOWe SMALL V BELOWe DOT BELOW AND DOT ABOVEe TWO DOTS ABOVEc JEH",
      "c REH WITH FOUR DOTS ABOVEc SEEN WITH DOT BELOW AND DOT ABOVEe THREE DOTS BELOW",
      "h AND THREE DOTS ABOVEc SAD WITH TWO DOTS BELOWe THREE DOTS ABOVE",
      "c TAH WITH THREE DOTS ABOVEc AIN WITH THREE DOTS ABOVEc DOTLESS FEH",
      "c FEH WITH DOT MOVED BELOWf BELOWc VEHc FEH WITH THREE DOTS BELOWc PEHEH",
      "c QAF WITH DOT ABOVEe THREE DOTS ABOVEc KEHEHc SWASH KAFc KAF WITH RINGe DOT ABOVEc NG",
      "c KAF WITH THREE DOTS BELOWc GAFd WITH RINGc NGOEHc GAF WITH TWO DOTS BELOWc GUEH",
      "c GAF WITH THREE DOTS ABOVEc LAM WITH SMALL Ve DOT ABOVEe THREE DOTS ABOVEg BELOW",
      "c NOON WITH DOT BELOWd GHUNNAc RNOONc NOON WITH RINGe THREE DOTS ABOVEc HEH DOACHASHMEE",
      "c TCHEH WITH DOT ABOVEc HEH WITH YEH ABOVEd GOALe WITH HAMZA ABOVEc TEH MARBUTA GOAL",
      "c WAW WITH RINGc KIRGHIZ OEc OEc Uc YUc KIRGHIZ YUc WAW WITH TWO DOTS ABOVEc VE",
      "c FARSI YEHc YEH WITH TAILe SMALL Vc WAW WITH DOT ABOVEc Ec YEH WITH THREE DOTS BELOW",
      "d BARREEe WITH HAMZA ABOVEb FULL STOPb LETTER AE",
      "b SMALL HIGH LIGATURE SAD WITH LAM WITH ALEF MAKSURAe QAF WITH LAM WITH ALEF MAKSURA",
      "d MEEM INITIAL FORMd LAM ALEFd JEEMd THREE DOTSd SEENb END OF AYAHb START OF RUB EL HIZB",
      "b SMALL HIGH ROUNDED ZEROd UPRIGHT RECTANGULAR ZEROd DOTLESS HEAD OF KHAH",
      "d MEEM ISOLATED FORMc LOW SEENc HIGH MADDAc WAWc YEHc HIGH YEHd NOONb PLACE OF SAJDAH",
      "b EMPTY CENTRE LOW STOPd HIGH STOPb ROUNDED HIGH STOP WITH FILLED CENTREb SMALL LOW MEEM",
      "b LETTER DAL WITH INVERTED Vc REH WITH INVERTED VaEXTENDED ARABIC-INDIC DIGIT ZEROe ONE",
      "e TWOe THREEe FOURe FIVEe SIXe SEVENe EIGHTe NINEaARABIC LETTER SHEEN WITH DOT BELOW",
      "c DAD WITH DOT BELOWc GHAIN WITH DOT BELOWb SIGN SINDHI AMPERSANDd POSTPOSITION MEN",
      "b LETTER HEH WITH INVERTED VaSYRIAC END OF PARAGRAPHb SUPRALINEAR FULL STOP",
      "b SUBLINEAR FULL STOPb SUPRALINEAR COLONb SUBLINEAR COLONb HORIZONTAL COLON",
      "b COLON SKEWED LEFTd RIGHTb SUPRALINEAR COLON SKEWED LEFTb SUBLINEAR COLON SKEWED RIGHT",
      "b CONTRACTIONb HARKLEAN OBELUSc METOBELUSc ASTERISCUS"]),
   (0x70F, ["aSYRIAC ABBREVIATION MARKb LETTER ALAPHc SUPERSCRIPT ALAPHc BETHc GAMALd GARSHUNI",
      "c DALATHc DOTLESS DALATH RISHc HEc WAWc ZAINc HETHc TETHd GARSHUNIc YUDHd HEc KAPH",
      "c LAMADHc MIMc NUNc SEMKATHc FINAL SEMKATHc Ec PEc REVERSED PEc SADHEc QAPHc RISHc SHIN",
      "c TAWc PERSIAN BHETHd GHAMALd DHALATHb PTHAHA ABOVEc BELOWc DOTTEDb ZQAPHA ABOVEc BELOW",
      "c DOTTEDb RBASA ABOVEc BELOWb DOTTED ZLAMA HORIZONTALd ANGULARb HBASA ABOVEc BELOW",
      "c-ESASA DOTTEDb ESASA ABOVEc BELOWb RWAHAb FEMININE DOTb QUSHSHAYAb RUKKAKHA",
      "b TWO VERTICAL DOTS ABOVEe BELOWb THREE DOTS ABOVEd BELOWb OBLIQUE LINE ABOVEd BELOW",
      "b MUSICb BARREKH"]),
   (0x74D, ["aSYRIAC LETTER SOGDIAN ZHAINd KHAPHd FE",
      "aARABIC LETTER BEH WITH THREE DOTS HORIZONTALLY BELOWe DOT BELOW AND THREE DOTS ABOVE",
      "e THREE DOTS POINTING UPWARDS BELOWj AND TWO DOTS ABOVEe TWO DOTS BELOW AND DOT ABOVE",
      "e INVERTED SMALL V BELOWe SMALL Vc HAH WITH TWO DOTS ABOVE",
      "e THREE DOTS POINTING UPWARDS BELOWc DAL WITH TWO DOTS VERTICALLY BELOW AND SMALL TAH",
      "e INVERTED SMALL V BELOWc REH WITH STROKEc SEEN WITH FOUR DOTS ABOVE",
      "c AIN WITH TWO DOTS ABOVEe THREE DOTS POINTING DOWNWARDS ABOVE",
      "e TWO DOTS VERTICALLY ABOVEc FEH WITH TWO DOTS BELOWe THREE DOTS POINTING UPWARDS BELOW",
      "c KEHEH WITH DOT ABOVEe THREE DOTS ABOVEg POINTING UPWARDS BELOWc MEEM WITH DOT ABOVE",
      "f BELOWc NOON WITH TWO DOTS BELOWe SMALL TAHf Vc LAM WITH BAR",
      "c REH WITH TWO DOTS VERTICALLY ABOVEe HAMZA ABOVEc SEEN WITH TWO DOTS VERTICALLY ABOVE",
      "c HAH WITH SMALL ARABIC LETTER TAH BELOWi AND TWO DOTS",
      "c SEEN WITH SMALL ARABIC LETTER TAH AND TWO DOTS",
      "c REH WITH SMALL ARABIC LETTER TAH AND TWO DOTSc HAH WITH SMALL ARABIC LETTER TAH ABOVE",
      "c ALEF WITH EXTENDED ARABIC-INDIC DIGIT TWO ABOVEi THREE ABOVE",
      "c FARSI YEH WITH EXTENDED ARABIC-INDIC DIGIT TWO ABOVEj THREE ABOVEj FOUR BELOW",
      "c WAW WITH EXTENDED ARABIC-INDIC DIGIT TWO ABOVEi THREE ABOVE",
      "c YEH BARREE WITH EXTENDED ARABIC-INDIC DIGIT TWO ABOVEj THREE ABOVE",
      "c HAH WITH EXTENDED ARABIC-INDIC DIGIT FOUR BELOW",
      "c SEEN WITH EXTENDED ARABIC-INDIC DIGIT FOUR ABOVEe INVERTED Vc KAF WITH TWO DOTS ABOVE",
      "aTHAANA LETTER HAAc SHAVIYANIc NOONUc RAAc BAAc LHAVIYANIc KAAFUc ALIFUc VAAVUc MEEMU",
      "c FAAFUc DHAALUc THAAc LAAMUc GAAFUc GNAVIYANIc SEENUc DAVIYANIc ZAVIYANIc TAVIYANIc YAA",
      "c PAVIYANIc JAVIYANIc CHAVIYANIc TTAAc HHAAc KHAAc THAALUc ZAAc SHEENUc SAADHUc DAADHU",
      "c TOc ZOc AINUc GHAINUc QAAFUc WAAVUb ABAFILIb AABAAFILIb IBIFILIb EEBEEFILIb UBUFILI",
      "b OOBOOFILIb EBEFILIb EYBEYFILIb OBOFILIb OABOAFILIb SUKUNb LETTER NAA"]),
   (0x7C0, ["aNKO DIGIT ZEROc ONEc TWOc THREEc FOURc FIVEc SIXc SEVENc EIGHTc NINEb LETTER A",
      "c EEc Ic Ec Uc OOc Oc DAGBASINNAc Nc BAc PAc TAc JAc CHAc DAc RAc RRAc SAc GBAc FAc KA",
      "c LAc NA WOLOSOc MAc NYAc NAc HAc WAc YAc NYA WOLOSOc JONA JAd CHAd RA",
      "b COMBINING SHORT HIGH TONEd LOW TONEd RISING TONEc LONG DESCENDING TONEd HIGH TONE",
      "d LOW TONEd RISING TONEc NASALIZATION MARKc DOUBLE DOT ABOVEb HIGH TONE APOSTROPHE",
      "b LOW TONE APOSTROPHEb SYMBOL OO DENNENc GBAKURUNENb COMMAb EXCLAMATION MARKb LAJANYALAN"]),
   (0x7FD, ["aNKO DANTAYALANb DOROME SIGNb TAMAN SIGNaSAMARITAN LETTER ALAFc BITc GAMANc DALAT",
      "c IYc BAAc ZENc ITc TITc YUTc KAAFc LABATc MIMc NUNc SINGAATc INc FIc TSAADIYc QUFc RISH",
      "c SHANc TAAFb MARK INd-ALAFc OCCLUSIONc DAGESHb MODIFIER LETTER EPENTHETIC YUT",
      "b MARK EPENTHETIC YUTb VOWEL SIGN LONG Ed Ed OVERLONG AAd LONG AAd AAd OVERLONG A",
      "d LONG Ad Ab MODIFIER LETTER SHORT Ab VOWEL SIGN SHORT Ad LONG Ud Ub MODIFIER LETTER I",
      "b VOWEL SIGN LONG Id Id Od SUKUNb MARK NEQUDAA"]),
   (0x830, ["aSAMARITAN PUNCTUATION NEQUDAAc AFSAAQc ANGEDc BAUc ATMAAUc SHIYYAALAA",
      "b ABBREVIATION MARKb PUNCTUATION MELODIC QITSAc ZIQAAc QITSAc ZAEFc TURUc ARKAANU",
      "c SOF MASHFAATc ANNAAU"]),
   (0x840, ["aMANDAIC LETTER HALQAc ABc AGc ADc AHc USHENNAc AZc ITc ATTc AKSAc AKc ALc AMc AN",
      "c ASc INc APc ASZc AQc ARc ASHc ATc DUSHENNAc KADc AINb AFFRICATION MARK",
      "b VOCALIZATION MARKb GEMINATION MARK"]),
   (0x85E, ["aMANDAIC PUNCTUATION"]),
   (0x860, ["aSYRIAC LETTER MALAYALAM NGAd JAd NYAd TTAd NNAd NNNAd BHAd RAd LLAd LLLAd SSA"]),
   (0x870, ["aARABIC LETTER ALEF WITH ATTACHED FATHAf TOP RIGHT FATHAe RIGHT MIDDLE STROKE",
      "e LEFT MIDDLE STROKEe ATTACHED KASRAf BOTTOM RIGHT KASRAf ROUND DOT ABOVE",
      "f RIGHT ROUND DOTf LEFT ROUND DOTf ROUND DOT BELOWe DOT ABOVE",
      "e ATTACHED TOP RIGHT FATHA AND DOT ABOVEe RIGHT MIDDLE STROKE AND DOT ABOVE",
      "e ATTACHED BOTTOM RIGHT KASRA AND DOT ABOVEf TOP RIGHT FATHA AND LEFT RING",
      "e RIGHT MIDDLE STROKE AND LEFT RINGe ATTACHED BOTTOM RIGHT KASRA AND LEFT RING",
      "f RIGHT HAMZAf LEFT HAMZAb TATWEEL WITH OVERSTRUCK HAMZAe WAWd TWO DOTS BELOW",
      "b LETTER THIN YEHb BASELINE ROUND DOTb RAISED ROUND DOT",
      "b LETTER NOON WITH INVERTED SMALL Vc HAH WITH INVERTED SMALL V BELOWc TAH WITH DOT BELOW",
      "e THREE DOTS BELOWc KEHEH WITH TWO DOTS VERTICALLY BELOWb VERTICAL TAIL"]),
   (0x890, ["aARABIC POUND MARK ABOVEb PIASTRE MARK ABOVE"]),
   (0x898, ["aARABIC SMALL HIGH WORD AL-JUZc LOW WORD ISHMAAMe IMAALAe TASHEELb MADDA WAAJIB",
      "b SUPERSCRIPT ALEF MOKHASSASb DOUBLED MADDAb HALF MADDA OVER MADDA",
      "b LETTER BEH WITH SMALL V BELOWe HAMZA ABOVEc JEEM WITH TWO DOTS ABOVE",
      "c TAH WITH TWO DOTS ABOVEc FEH WITH DOT BELOW AND THREE DOTS ABOVEc QAF WITH DOT BELOW",
      "c LAM WITH DOUBLE BARc MEEM WITH THREE DOTS ABOVE",
      "c YEH WITH TWO DOTS BELOW AND HAMZA ABOVEi DOT ABOVEc REH WITH LOOPc WAW WITH DOT WITHIN",
      "c ROHINGYA YEHc LOW ALEFc DAL WITH THREE DOTS BELOWc SAD WITH THREE DOTS BELOW",
      "c GAF WITH INVERTED STROKEc STRAIGHT WAWc ZAIN WITH INVERTED V ABOVE",
      "c AIN WITH THREE DOTS BELOWc KAF WITH DOT BELOWc QAF WITH DOT BELOW AND NO DOTS ABOVE",
      "c BEH WITH SMALL MEEM ABOVEc PEH WITH SMALL MEEM ABOVEc TEH WITH SMALL TEH ABOVE",
      "c REH WITH SMALL NOON ABOVEc YEH WITH TWO DOTS BELOW AND SMALL NOON ABOVEc AFRICAN FEH",
      "d QAFd NOONc PEH WITH SMALL Vc TEH WITH SMALL Vc TTEH WITH SMALL Vc TCHEH WITH SMALL V",
      "c KEHEH WITH SMALL Vc GHAIN WITH THREE DOTS ABOVEc AFRICAN QAF WITH THREE DOTS ABOVE",
      "c JEEM WITH THREE DOTS ABOVEg BELOWc LAM WITH SMALL ARABIC LETTER TAH ABOVEc GRAF",
      "b SMALL FARSI YEHc HIGH FARSI YEHd YEH BARREE WITH TWO DOTS BELOWd WORD SAHd ZAH",
      "b LARGE ROUND DOT ABOVEe BELOWb SUKUN BELOWb LARGE CIRCLE BELOW",
      "c ROUND DOT INSIDE CIRCLE BELOWb SMALL LOW WAWc HIGH WORD AR-RUBd SADd AINd QAF",
      "d NOON WITH KASRAc LOW NOON WITH KASRAc HIGH WORD ATH-THALATHAe AS-SAJDAe AN-NISFe SAKTA",
      "e QIFe WAQFAd FOOTNOTE MARKERd SIGN SAFHAb DISPUTED END OF AYAHb TURNED DAMMA BELOW",
      "b CURLY FATHAc DAMMAc KASRAc FATHATANc DAMMATANc KASRATANb TONE ONE DOT ABOVE",
      "c TWO DOTS ABOVEc LOOP ABOVEc ONE DOT BELOWc TWO DOTS BELOWc LOOP BELOWb OPEN FATHATAN",
      "c DAMMATANc KASRATANb SMALL HIGH WAWb FATHA WITH RINGd DOT ABOVEb KASRA WITH DOT BELOW",
      "b LEFT ARROWHEAD ABOVEb RIGHT ARROWHEAD ABOVEb LEFT ARROWHEAD BELOW",
      "b RIGHT ARROWHEAD BELOWb DOUBLE RIGHT ARROWHEAD ABOVEf WITH DOT",
      "b RIGHT ARROWHEAD ABOVE WITH DOTb DAMMA WITH DOTb MARK SIDEWAYS NOON GHUNNA",
      "aDEVANAGARI SIGN INVERTED CANDRABINDUc CANDRABINDUc ANUSVARAc VISARGAb LETTER SHORT Ac A",
      "c AAc Ic IIc Uc UUc VOCALIC Rd Lc CANDRA Ec SHORT Ec Ec AIc CANDRA Oc SHORT Oc Oc AUc KA",
      "c KHAc GAc GHAc NGAc CAc CHAc JAc JHAc NYAc TTAc TTHAc DDAc DDHAc NNAc TAc THAc DAc DHA",
      "c NAc NNNAc PAc PHAc BAc BHAc MAc YAc RAc RRAc LAc LLAc LLLAc VAc SHAc SSAc SAc HA",
      "b VOWEL SIGN OEd OOEb SIGN NUKTAc AVAGRAHAb VOWEL SIGN AAd Id IId Ud UUd VOCALIC Re RR",
      "d CANDRA Ed SHORT Ed Ed AId CANDRA Od SHORT Od Od AUb SIGN VIRAMA",
      "b VOWEL SIGN PRISHTHAMATRA Ed AWb OMb STRESS SIGN UDATTAd ANUDATTAb GRAVE ACCENT",
      "b ACUTE ACCENTb VOWEL SIGN CANDRA LONG Ed UEd UUEb LETTER QAc KHHAc GHHAc ZAc DDDHAc RHA",
      "c FAc YYAc VOCALIC RRd LLb VOWEL SIGN VOCALIC Le LLb DANDAb DOUBLE DANDAb DIGIT ZERO",
      "c ONEc TWOc THREEc FOURc FIVEc SIXc SEVENc EIGHTc NINEb ABBREVIATION SIGN",
      "b SIGN HIGH SPACING DOTb LETTER CANDRA Ac OEc OOEc AWc UEc UUEc MARWARI DDAc ZHA",
      "c HEAVY YAc GGAc JJAc GLOTTAL STOPc DDDAc BBAaBENGALI ANJIb SIGN CANDRABINDUc ANUSVARA",
      "c VISARGA"]),
   (0x985, ["aBENGALI LETTER Ac AAc Ic IIc Uc UUc VOCALIC Rd L"]),
   (0x98F, ["aBENGALI LETTER Ec AI"]),
   (0x993, ["aBENGALI LETTER Oc AUc KAc KHAc GAc GHAc NGAc CAc CHAc JAc JHAc NYAc TTAc TTHA",
      "c DDAc DDHAc NNAc TAc THAc DAc DHAc NA"]),
   (0x9AA, ["aBENGALI LETTER PAc PHAc BAc BHAc MAc YAc RA"]),
   (0x9B2, ["aBENGALI LETTER LA"]),
   (0x9B6, ["aBENGALI LETTER SHAc SSAc SAc HA"]),
   (0x9BC, ["aBENGALI SIGN NUKTAc AVAGRAHAb VOWEL SIGN AAd Id IId Ud UUd VOCALIC Re RR"]),
   (0x9C7, ["aBENGALI VOWEL SIGN Ed AI"]),
   (0x9CB, ["aBENGALI VOWEL SIGN Od AUb SIGN VIRAMAb LETTER KHANDA TA"]),
   (0x9D7, ["aBENGALI AU LENGTH MARK"]),
   (0x9DC, ["aBENGALI LETTER RRAc RHA"]),
   (0x9DF, ["aBENGALI LETTER YYAc VOCALIC RRd LLb VOWEL SIGN VOCALIC Le LL"]),
   (0x9E6, ["aBENGALI DIGIT ZEROc ONEc TWOc THREEc FOURc FIVEc SIXc SEVENc EIGHTc NINE",
      "b LETTER RA WITH MIDDLE DIAGONALe LOWER DIAGONALb RUPEE MARKc SIGN",
      "b CURRENCY NUMERATOR ONEd TWOd THREEd FOURd ONE LESS THAN THE DENOMINATOR",
      "c DENOMINATOR SIXTEENb ISSHARb GANDA MARKb LETTER VEDIC ANUSVARAb ABBREVIATION SIGN",
      "b SANDHI MARK"]),
   (0xA01, ["aGURMUKHI SIGN ADAK BINDIc BINDIc VISARGA"]),
   (0xA05, ["aGURMUKHI LETTER Ac AAc Ic IIc Uc UU"]),
   (0xA0F, ["aGURMUKHI LETTER EEc AI"]),
   (0xA13, ["aGURMUKHI LETTER OOc AUc KAc KHAc GAc GHAc NGAc CAc CHAc JAc JHAc NYAc TTAc TTHA",
      "c DDAc DDHAc NNAc TAc THAc DAc DHAc NA"]),
   (0xA2A, ["aGURMUKHI LETTER PAc PHAc BAc BHAc MAc YAc RA"]),
   (0xA32, ["aGURMUKHI LETTER LAc LLA"]),
   (0xA35, ["aGURMUKHI LETTER VAc SHA"]),
   (0xA38, ["aGURMUKHI LETTER SAc HA"]),
   (0xA3C, ["aGURMUKHI SIGN NUKTA"]),
   (0xA3E, ["aGURMUKHI VOWEL SIGN AAd Id IId Ud UU"]),
   (0xA47, ["aGURMUKHI VOWEL SIGN EEd AI"]),
   (0xA4B, ["aGURMUKHI VOWEL SIGN OOd AUb SIGN VIRAMA"]),
   (0xA51, ["aGURMUKHI SIGN UDAAT"]),
   (0xA59, ["aGURMUKHI LETTER KHHAc GHHAc ZAc RRA"]),
   (0xA5E, ["aGURMUKHI LETTER FA"]),
   (0xA66, ["aGURMUKHI DIGIT ZEROc ONEc TWOc THREEc FOURc FIVEc SIXc SEVENc EIGHTc NINEb TIPPI",
      "b ADDAKb IRIb URAb EK ONKARb SIGN YAKASHb ABBREVIATION SIGN"]),
   (0xA81, ["aGUJARATI SIGN CANDRABINDUc ANUSVARAc VISARGA"]),
   (0xA85, ["aGUJARATI LETTER Ac AAc Ic IIc Uc UUc VOCALIC Rd Lb VOWEL CANDRA E"]),
   (0xA8F, ["aGUJARATI LETTER Ec AIb VOWEL CANDRA O"]),
   (0xA93, ["aGUJARATI LETTER Oc AUc KAc KHAc GAc GHAc NGAc CAc CHAc JAc JHAc NYAc TTAc TTHA",
      "c DDAc DDHAc NNAc TAc THAc DAc DHAc NA"]),
   (0xAAA, ["aGUJARATI LETTER PAc PHAc BAc BHAc MAc YAc RA"]),
   (0xAB2, ["aGUJARATI LETTER LAc LLA"]),
   (0xAB5, ["aGUJARATI LETTER VAc SHAc SSAc SAc HA"]),
   (0xABC, ["aGUJARATI SIGN NUKTAc AVAGRAHAb VOWEL SIGN AAd Id IId Ud UUd VOCALIC Re RR",
      "d CANDRA E"]),
   (0xAC7, ["aGUJARATI VOWEL SIGN Ed AId CANDRA O"]),
   (0xACB, ["aGUJARATI VOWEL SIGN Od AUb SIGN VIRAMA"]),
   (0xAD0, ["aGUJARATI OM"]),
   (0xAE0, ["aGUJARATI LETTER VOCALIC RRd LLb VOWEL SIGN VOCALIC Le LL"]),
   (0xAE6, ["aGUJARATI DIGIT ZEROc ONEc TWOc THREEc FOURc FIVEc SIXc SEVENc EIGHTc NINE",
      "b ABBREVIATION SIGNb RUPEE SIGN"]),
   (0xAF9, ["aGUJARATI LETTER ZHAb SIGN SUKUNc SHADDAc MADDAHc THREE-DOT NUKTA ABOVE",
      "c CIRCLE NUKTA ABOVEc TWO-CIRCLE NUKTA ABOVE"]),
   (0xB01, ["aORIYA SIGN CANDRABINDUc ANUSVARAc VISARGA"]),
   (0xB05, ["aORIYA LETTER Ac AAc Ic IIc Uc UUc VOCALIC Rd L"]),
   (0xB0F, ["aORIYA LETTER Ec AI"]),
   (0xB13, ["aORIYA LETTER Oc AUc KAc KHAc GAc GHAc NGAc CAc CHAc JAc JHAc NYAc TTAc TTHAc DDA",
      "c DDHAc NNAc TAc THAc DAc DHAc NA"]),
   (0xB2A, ["aORIYA LETTER PAc PHAc BAc BHAc MAc YAc RA"]),
   (0xB32, ["aORIYA LETTER LAc LLA"]),
   (0xB35, ["aORIYA LETTER VAc SHAc SSAc SAc HA"]),
   (0xB3C, ["aORIYA SIGN NUKTAc AVAGRAHAb VOWEL SIGN AAd Id IId Ud UUd VOCALIC Re RR"]),
   (0xB47, ["aORIYA VOWEL SIGN Ed AI"]),
   (0xB4B, ["aORIYA VOWEL SIGN Od AUb SIGN VIRAMA"]),
   (0xB55, ["aORIYA SIGN OVERLINEb AI LENGTH MARKb AU LENGTH MARK"]),
   (0xB5C, ["aORIYA LETTER RRAc RHA"]),
   (0xB5F, ["aORIYA LETTER YYAc VOCALIC RRd LLb VOWEL SIGN VOCALIC Le LL"]),
   (0xB66, ["aORIYA DIGIT ZEROc ONEc TWOc THREEc FOURc FIVEc SIXc SEVENc EIGHTc NINEb ISSHAR",
      "b LETTER WAb FRACTION ONE QUARTERd HALFc THREE QUARTERSc ONE SIXTEENTHd EIGHTH",
      "c THREE SIXTEENTHS"]),
   (0xB82, ["aTAMIL SIGN ANUSVARAc VISARGA"]),
   (0xB85, ["aTAMIL LETTER Ac AAc Ic IIc Uc UU"]),
   (0xB8E, ["aTAMIL LETTER Ec EEc AI"]),
   (0xB92, ["aTAMIL LETTER Oc OOc AUc KA"]),
   (0xB99, ["aTAMIL LETTER NGAc CA"]),
   (0xB9C, ["aTAMIL LETTER JA"]),
   (0xB9E, ["aTAMIL LETTER NYAc TTA"]),
   (0xBA3, ["aTAMIL LETTER NNAc TA"]),
   (0xBA8, ["aTAMIL LETTER NAc NNNAc PA"]),
   (0xBAE, ["aTAMIL LETTER MAc YAc RAc RRAc LAc LLAc LLLAc VAc SHAc SSAc SAc HA"]),
   (0xBBE, ["aTAMIL VOWEL SIGN AAd Id IId Ud UU"]),
   (0xBC6, ["aTAMIL VOWEL SIGN Ed EEd AI"]),
   (0xBCA, ["aTAMIL VOWEL SIGN Od OOd AUb SIGN VIRAMA"]),
   (0xBD0, ["aTAMIL OM"]),
   (0xBD7, ["aTAMIL AU LENGTH MARK"]),
   (0xBE6, ["aTAMIL DIGIT ZEROc ONEc TWOc THREEc FOURc FIVEc SIXc SEVENc EIGHTc NINE",
      "b NUMBER TENc ONE HUNDREDd THOUSANDb DAY SIGNb MONTH SIGNb YEAR SIGNb DEBIT SIGN",
      "b CREDIT SIGNb AS ABOVE SIGNb RUPEE SIGNb NUMBER SIGN"]),
   (0xC00, ["aTELUGU SIGN COMBINING CANDRABINDU ABOVEc CANDRABINDUc ANUSVARAc VISARGA",
      "c COMBINING ANUSVARA ABOVEb LETTER Ac AAc Ic IIc Uc UUc VOCALIC Rd L"]),
   (0xC0E, ["aTELUGU LETTER Ec EEc AI"]),
   (0xC12, ["aTELUGU LETTER Oc OOc AUc KAc KHAc GAc GHAc NGAc CAc CHAc JAc JHAc NYAc TTAc TTHA",
      "c DDAc DDHAc NNAc TAc THAc DAc DHAc NA"]),
   (0xC2A, ["aTELUGU LETTER PAc PHAc BAc BHAc MAc YAc RAc RRAc LAc LLAc LLLAc VAc SHAc SSAc SA",
      "c HA"]),
   (0xC3C, ["aTELUGU SIGN NUKTAc AVAGRAHAb VOWEL SIGN AAd Id IId Ud UUd VOCALIC Re RR"]),
   (0xC46, ["aTELUGU VOWEL SIGN Ed EEd AI"]),
   (0xC4A, ["aTELUGU VOWEL SIGN Od OOd AUb SIGN VIRAMA"]),
   (0xC55, ["aTELUGU LENGTH MARKb AI LENGTH MARK"]),
   (0xC58, ["aTELUGU LETTER TSAc DZAc RRRA"]),
   (0xC5D, ["aTELUGU LETTER NAKAARA POLLU"]),
   (0xC60, ["aTELUGU LETTER VOCALIC RRd LLb VOWEL SIGN VOCALIC Le LL"]),
   (0xC66, ["aTELUGU DIGIT ZEROc ONEc TWOc THREEc FOURc FIVEc SIXc SEVENc EIGHTc NINE"]),
   (0xC77, ["aTELUGU SIGN SIDDHAMb FRACTION DIGIT ZERO FOR ODD POWERS OF FOUR",
      "d ONE FOR ODD POWERS OF FOURd TWO FOR ODD POWERS OF FOURd THREE FOR ODD POWERS OF FOUR",
      "d ONE FOR EVEN POWERS OF FOURd TWO FOR EVEN POWERS OF FOUR",
      "d THREE FOR EVEN POWERS OF FOURb SIGN TUUMUaKANNADA SIGN SPACING CANDRABINDU",
      "c CANDRABINDUc ANUSVARAc VISARGAc SIDDHAMb LETTER Ac AAc Ic IIc Uc UUc VOCALIC Rd L"]),
   (0xC8E, ["aKANNADA LETTER Ec EEc AI"]),
   (0xC92, ["aKANNADA LETTER Oc OOc AUc KAc KHAc GAc GHAc NGAc CAc CHAc JAc JHAc NYAc TTAc TTHA",
      "c DDAc DDHAc NNAc TAc THAc DAc DHAc NA"]),
   (0xCAA, ["aKANNADA LETTER PAc PHAc BAc BHAc MAc YAc RAc RRAc LAc LLA"]),
   (0xCB5, ["aKANNADA LETTER VAc SHAc SSAc SAc HA"]),
   (0xCBC, ["aKANNADA SIGN NUKTAc AVAGRAHAb VOWEL SIGN AAd Id IId Ud UUd VOCALIC Re RR"]),
   (0xCC6, ["aKANNADA VOWEL SIGN Ed EEd AI"]),
   (0xCCA, ["aKANNADA VOWEL SIGN Od OOd AUb SIGN VIRAMA"]),
   (0xCD5, ["aKANNADA LENGTH MARKb AI LENGTH MARK"]),
   (0xCDD, ["aKANNADA LETTER NAKAARA POLLUc FA"]),
   (0xCE0, ["aKANNADA LETTER VOCALIC RRd LLb VOWEL SIGN VOCALIC Le LL"]),
   (0xCE6, ["aKANNADA DIGIT ZEROc ONEc TWOc THREEc FOURc FIVEc SIXc SEVENc EIGHTc NINE"]),
   (0xCF1, ["aKANNADA SIGN JIHVAMULIYAc UPADHMANIYA"]),
   (0xD00, ["aMALAYALAM SIGN COMBINING ANUSVARA ABOVEc CANDRABINDUc ANUSVARAc VISARGA",
      "b LETTER VEDIC ANUSVARAc Ac AAc Ic IIc Uc UUc VOCALIC Rd L"]),
   (0xD0E, ["aMALAYALAM LETTER Ec EEc AI"]),
   (0xD12, ["aMALAYALAM LETTER Oc OOc AUc KAc KHAc GAc GHAc NGAc CAc CHAc JAc JHAc NYAc TTA",
      "c TTHAc DDAc DDHAc NNAc TAc THAc DAc DHAc NAc NNNAc PAc PHAc BAc BHAc MAc YAc RAc RRA",
      "c LAc LLAc LLLAc VAc SHAc SSAc SAc HAc TTTAb SIGN VERTICAL BAR VIRAMAc CIRCULAR VIRAMA",
      "c AVAGRAHAb VOWEL SIGN AAd Id IId Ud UUd VOCALIC Re RR"]),
   (0xD46, ["aMALAYALAM VOWEL SIGN Ed EEd AI"]),
   (0xD4A, ["aMALAYALAM VOWEL SIGN Od OOd AUb SIGN VIRAMAb LETTER DOT REPHb SIGN PARA"]),
   (0xD54, ["aMALAYALAM LETTER CHILLU Md Yd LLLb AU LENGTH MARK",
      "b FRACTION ONE ONE-HUNDRED-AND-SIXTIETHd FORTIETHc THREE EIGHTIETHSc ONE TWENTIETH",
      "d TENTHc THREE TWENTIETHSc ONE FIFTHb LETTER ARCHAIC IIc VOCALIC RRd LL",
      "b VOWEL SIGN VOCALIC Le LL"]),
   (0xD66, ["aMALAYALAM DIGIT ZEROc ONEc TWOc THREEc FOURc FIVEc SIXc SEVENc EIGHTc NINE",
      "b NUMBER TENc ONE HUNDREDd THOUSANDb FRACTION ONE QUARTERd HALFc THREE QUARTERS",
      "c ONE SIXTEENTHd EIGHTHc THREE SIXTEENTHSb DATE MARKb LETTER CHILLU NNd Nd RRd Ld LLd K"]),
   (0xD81, ["aSINHALA SIGN CANDRABINDUc ANUSVARAYAc VISARGAYA"]),
   (0xD85, ["aSINHALA LETTER AYANNAc AAYANNAc AEYANNAc AEEYANNAc IYANNAc IIYANNAc UYANNA",
      "c UUYANNAc IRUYANNAc IRUUYANNAc ILUYANNAc ILUUYANNAc EYANNAc EEYANNAc AIYANNAc OYANNA",
      "c OOYANNAc AUYANNA"]),
   (0xD9A, ["aSINHALA LETTER ALPAPRAANA KAYANNAc MAHAAPRAANA KAYANNAc ALPAPRAANA GAYANNA",
      "c MAHAAPRAANA GAYANNAc KANTAJA NAASIKYAYAc SANYAKA GAYANNAc ALPAPRAANA CAYANNA",
      "c MAHAAPRAANA CAYANNAc ALPAPRAANA JAYANNAc MAHAAPRAANA JAYANNAc TAALUJA NAASIKYAYA",
      "d SANYOOGA NAAKSIKYAYAc SANYAKA JAYANNAc ALPAPRAANA TTAYANNAc MAHAAPRAANA TTAYANNA",
      "c ALPAPRAANA DDAYANNAc MAHAAPRAANA DDAYANNAc MUURDHAJA NAYANNAc SANYAKA DDAYANNA",
      "c ALPAPRAANA TAYANNAc MAHAAPRAANA TAYANNAc ALPAPRAANA DAYANNAc MAHAAPRAANA DAYANNA",
      "c DANTAJA NAYANNA"]),
   (0xDB3, ["aSINHALA LETTER SANYAKA DAYANNAc ALPAPRAANA PAYANNAc MAHAAPRAANA PAYANNA",
      "c ALPAPRAANA BAYANNAc MAHAAPRAANA BAYANNAc MAYANNAc AMBA BAYANNAc YAYANNAc RAYANNA"]),
   (0xDBD, ["aSINHALA LETTER DANTAJA LAYANNA"]),
   (0xDC0, ["aSINHALA LETTER VAYANNAc TAALUJA SAYANNAc MUURDHAJA SAYANNAc DANTAJA SAYANNA",
      "c HAYANNAc MUURDHAJA LAYANNAc FAYANNA"]),
   (0xDCA, ["aSINHALA SIGN AL-LAKUNA"]),
   (0xDCF, ["aSINHALA VOWEL SIGN AELA-PILLAd KETTI AEDA-PILLAd DIGA AEDA-PILLAd KETTI IS-PILLA",
      "d DIGA IS-PILLAd KETTI PAA-PILLA"]),
   (0xDD6, ["aSINHALA VOWEL SIGN DIGA PAA-PILLA"]),
   (0xDD8, ["aSINHALA VOWEL SIGN GAETTA-PILLAd KOMBUVAd DIGA KOMBUVAd KOMBU DEKA",
      "d KOMBUVA HAA AELA-PILLAf DIGA AELA-PILLAf GAYANUKITTAd GAYANUKITTA"]),
   (0xDE6, ["aSINHALA LITH DIGIT ZEROd ONEd TWOd THREEd FOURd FIVEd SIXd SEVENd EIGHTd NINE"]),
   (0xDF2, ["aSINHALA VOWEL SIGN DIGA GAETTA-PILLAe GAYANUKITTAb PUNCTUATION KUNDDALIYA"]),
   (0xE01, ["aTHAI CHARACTER KO KAIc KHO KHAId KHUATd KHWAId KHONd RAKHANGc NGO NGUc CHO CHAN",
      "d CHINGd CHANGc SO SOc CHO CHOEc YO YINGc DO CHADAc TO PATAKc THO THANd NANGMONTHO",
      "d PHUTHAOc NO NENc DO DEKc TO TAOc THO THUNGd THAHANd THONGc NO NUc BO BAIMAIc PO PLA",
      "c PHO PHUNGc FO FAc PHO PHANc FO FANc PHO SAMPHAOc MO MAc YO YAKc RO RUAc RUc LO LING",
      "c LUc WO WAENc SO SALAd RUSId SUAc HO HIPc LO CHULAc O ANGc HO NOKHUKc PAIYANNOIc SARA A",
      "c MAI HAN-AKATc SARA AAd AMd Id IId UEd UEEd Ud UUc PHINTHU"]),
   (0xE3F, ["aTHAI CURRENCY SYMBOL BAHTb CHARACTER SARA Ed AEd Od AI MAIMUANe MAIMALAI",
      "c LAKKHANGYAOc MAIYAMOKc MAITAIKHUc MAI EKd THOd TRId CHATTAWAc THANTHAKHATc NIKHAHIT",
      "c YAMAKKANc FONGMANb DIGIT ZEROc ONEc TWOc THREEc FOURc FIVEc SIXc SEVENc EIGHTc NINE",
      "b CHARACTER ANGKHANKHUc KHOMUT"]),
   (0xE81, ["aLAO LETTER KOc KHO SUNG"]),
   (0xE84, ["aLAO LETTER KHO TAM"]),
   (0xE86, ["aLAO LETTER PALI GHAc NGOc COc PALI CHAc SO TAM"]),
   (0xE8C, ["aLAO LETTER PALI JHAc NYOc PALI NYAd TTAd TTHAd DDAd DDHAd NNAc DOc TOc THO SUNG",
      "d TAMc PALI DHAc NOc BOc POc PHO SUNGc FO TAMc PHO TAMc FO SUNGc PALI BHAc MOc YO",
      "c LO LING"]),
   (0xEA5, ["aLAO LETTER LO LOOT"]),
   (0xEA7, ["aLAO LETTER WOc SANSKRIT SHAd SSAc SO SUNGc HO SUNGc PALI LLAc Oc HO TAMb ELLIPSIS",
      "b VOWEL SIGN Ad MAI KANd AAd AMd Id IId Yd YYd Ud UUb SIGN PALI VIRAMA",
      "b VOWEL SIGN MAI KONb SEMIVOWEL SIGN LOd NYO"]),
   (0xEC0, ["aLAO VOWEL SIGN Ed EId Od AYd AI"]),
   (0xEC6, ["aLAO KO LA"]),
   (0xEC8, ["aLAO TONE MAI EKd THOd TId CATAWAb CANCELLATION MARKb NIGGAHITA"]),
   (0xED0, ["aLAO DIGIT ZEROc ONEc TWOc THREEc FOURc FIVEc SIXc SEVENc EIGHTc NINE"]),
   (0xEDC, ["aLAO HO NOc MOb LETTER KHMU GOd NYO"]),
   (0xF00, ["aTIBETAN SYLLABLE OMb MARK GTER YIG MGO TRUNCATED Af -UM RNAM BCAD MA",
      "h GTER TSHEG MAc INITIAL YIG MGO MDUN MAc CLOSING YIG MGO SGAB MA",
      "c CARET YIG MGO PHUR SHAD MAc YIG MGO TSHEG SHAD MAc SBRUL SHADc BSKUR YIG MGO",
      "c BKA- SHOG YIG MGOc INTERSYLLABIC TSHEGc DELIMITER TSHEG BSTARc SHADc NYIS SHAD",
      "c TSHEG SHADc NYIS TSHEG SHADc RIN CHEN SPUNGS SHADc RGYA GRAM SHAD",
      "c CARET -DZUD RTAGS ME LONG CANc GTER TSHEGb LOGOTYPE SIGN CHAD RTAGSd LHAG RTAGS",
      "b ASTROLOGICAL SIGN SGRA GCAN -CHAR RTAGSd -KHYUD PAd SDONG TSHUGSb SIGN RDEL DKAR GCIG",
      "e GNYISe GSUMd NAG GCIGe GNYISd DKAR RDEL NAGb DIGIT ZEROc ONEc TWOc THREEc FOURc FIVE",
      "c SIXc SEVENc EIGHTc NINEc HALF ONEd TWOd THREEd FOURd FIVEd SIXd SEVENd EIGHTd NINE",
      "d ZEROb MARK BSDUS RTAGSc NGAS BZUNG NYI ZLAc CARET -DZUD RTAGS BZHI MIG CAN",
      "c NGAS BZUNG SGOR RTAGSc CHE MGOc TSA -PHRUc GUG RTAGS GYONe GYASc ANG KHANG GYONe GYAS",
      "b SIGN YAR TSHESc MAR TSHESb LETTER KAc KHAc GAc GHAc NGAc CAc CHAc JA"]),
   (0xF49, ["aTIBETAN LETTER NYAc TTAc TTHAc DDAc DDHAc NNAc TAc THAc DAc DHAc NAc PAc PHAc BA",
      "c BHAc MAc TSAc TSHAc DZAc DZHAc WAc ZHAc ZAc -Ac YAc RAc LAc SHAc SSAc SAc HAc Ac KSSA",
      "c FIXED-FORM RAc KKAc RRA"]),
   (0xF71, ["aTIBETAN VOWEL SIGN AAd Id IId Ud UUd VOCALIC Re RRe Le LLd Ed EEd Od OO",
      "b SIGN RJES SU NGA ROc RNAM BCADb VOWEL SIGN REVERSED Ie IIb SIGN NYI ZLA NAA DA",
      "c SNA LDANb MARK HALANTAc PALUTAb SIGN LCI RTAGSc YANG RTAGSc LCE TSA CANc MCHU CAN",
      "c GRU CAN RGYINGSd MED RGYINGSc INVERTED MCHU CANb SUBJOINED SIGN LCE TSA CANd MCHU CAN",
      "d INVERTED MCHU CANc LETTER KAd KHAd GAd GHAd NGAd CAd CHAd JA"]),
   (0xF99, ["aTIBETAN SUBJOINED LETTER NYAd TTAd TTHAd DDAd DDHAd NNAd TAd THAd DAd DHAd NAd PA",
      "d PHAd BAd BHAd MAd TSAd TSHAd DZAd DZHAd WAd ZHAd ZAd -Ad YAd RAd LAd SHAd SSAd SAd HA",
      "d Ad KSSAd FIXED-FORM WAf YAf RA"]),
   (0xFBE, ["aTIBETAN KU RU KHAe BZHI MIG CANb CANTILLATION SIGN HEAVY BEATd LIGHT BEAT",
      "d CANG TE-Ud SBUB -CHALb SYMBOL DRIL BUc RDO RJEc PADMA GDANc RDO RJE RGYA GRAMc PHUR PA",
      "c NOR BUe NYIS -KHYILe GSUM -KHYILe BZHI -KHYIL"]),
   (0xFCE, ["aTIBETAN SIGN RDEL NAG RDEL DKARe GSUMb MARK BSKA- SHOG GI MGO RGYAN",
      "c MNYAM YIG GI MGO RGYANc NYIS TSHEGc INITIAL BRDA RNYING YIG MGO MDUN MA",
      "c CLOSING BRDA RNYING YIG MGO SGAB MAaRIGHT-FACING SVASTI SIGNaLEFT-FACING SVASTI SIGN",
      "aRIGHT-FACING SVASTI SIGN WITH DOTSaLEFT-FACING SVASTI SIGN WITH DOTS",
      "aTIBETAN MARK LEADING MCHAN RTAGSc TRAILING MCHAN RTAGS"]),
   (0x1000, ["aMYANMAR LETTER KAc KHAc GAc GHAc NGAc CAc CHAc JAc JHAc NYAc NNYAc TTAc TTHA",
      "c DDAc DDHAc NNAc TAc THAc DAc DHAc NAc PAc PHAc BAc BHAc MAc YAc RAc LAc WAc SAc HA",
      "c LLAc Ac SHAN Ac Ic IIc Uc UUc Ec MON Ec Oc AUb VOWEL SIGN TALL AAd AAd Id IId Ud UUd E",
      "d AId MON IIe Od E ABOVEb SIGN ANUSVARAc DOT BELOWc VISARGAc VIRAMAc ASAT",
      "b CONSONANT SIGN MEDIAL YAe RAe WAe HAb LETTER GREAT SAb DIGIT ZEROc ONEc TWOc THREE",
      "c FOURc FIVEc SIXc SEVENc EIGHTc NINEb SIGN LITTLE SECTIONc SECTIONb SYMBOL LOCATIVE",
      "c COMPLETEDc AFOREMENTIONEDc GENITIVEb LETTER SHAc SSAc VOCALIC Rd RRd Ld LL",
      "b VOWEL SIGN VOCALIC Re RRe Le LLb LETTER MON NGAd JHAd BBAd BBE",
      "b CONSONANT SIGN MON MEDIAL NAf MAf LAb LETTER SGAW KAREN SHAb VOWEL SIGN SGAW KAREN EU",
      "b TONE MARK SGAW KAREN HATHIf KE PHOb LETTER WESTERN PWO KAREN THAf PWA",
      "b VOWEL SIGN WESTERN PWO KAREN EUg UEb SIGN WESTERN PWO KAREN TONE-1g-2g-3g-4g-5",
      "b LETTER EASTERN PWO KAREN NNAf YWAf GHWAb VOWEL SIGN GEBA KAREN Id KAYAH OEe Ue EE",
      "b LETTER SHAN KAd KHAd GAd CAd ZAd NYAd DAd NAd PHAd FAd BAd THAd HA",
      "b CONSONANT SIGN SHAN MEDIAL WAb VOWEL SIGN SHAN AAe Ef ABOVEe FINAL Yb SIGN SHAN TONE-2",
      "e-3e-5e-6d COUNCIL TONE-2f-3e EMPHATIC TONEb LETTER RUMAI PALAUNG FA",
      "b SIGN RUMAI PALAUNG TONE-5b SHAN DIGIT ZEROd ONEd TWOd THREEd FOURd FIVEd SIXd SEVEN",
      "d EIGHTd NINEb SIGN KHAMTI TONE-1e-3b VOWEL SIGN AITON Ae AIb SYMBOL SHAN ONE",
      "d EXCLAMATIONaGEORGIAN CAPITAL LETTER ANd BANd GANd DONd ENd VINd ZENd TANd INd KANd LAS",
      "d MANd NARd ONd PARd ZHARd RAEd SANd TARd UNd PHARd KHARd GHANd QARd SHINd CHINd CAN",
      "d JILd CILd CHARd XANd JHANd HAEd HEd HIEd WEd HARd HOE"]),
   (0x10C7, ["aGEORGIAN CAPITAL LETTER YN"]),
   (0x10CD, ["aGEORGIAN CAPITAL LETTER AEN"]),
   (0x10D0, ["aGEORGIAN LETTER ANc BANc GANc DONc ENc VINc ZENc TANc INc KANc LASc MANc NARc ON",
      "c PARc ZHARc RAEc SANc TARc UNc PHARc KHARc GHANc QARc SHINc CHINc CANc JILc CILc CHAR",
      "c XANc JHANc HAEc HEc HIEc WEc HARc HOEc FIc YNc ELIFIc TURNED GANc AIN",
      "b PARAGRAPH SEPARATORaMODIFIER LETTER GEORGIAN NARaGEORGIAN LETTER AENc HARD SIGN",
      "c LABIAL SIGNaHANGUL CHOSEONG KIYEOKc SSANGKIYEOKc NIEUNc TIKEUTc SSANGTIKEUTc RIEUL",
      "c MIEUMc PIEUPc SSANGPIEUPc SIOSc SSANGSIOSc IEUNGc CIEUCc SSANGCIEUCc CHIEUCHc KHIEUKH",
      "c THIEUTHc PHIEUPHc HIEUHc NIEUN-KIYEOKc SSANGNIEUNc NIEUN-TIKEUTd-PIEUPc TIKEUT-KIYEOK",
      "c RIEUL-NIEUNc SSANGRIEULc RIEUL-HIEUHc KAPYEOUNRIEULc MIEUM-PIEUPc KAPYEOUNMIEUM",
      "c PIEUP-KIYEOKd-NIEUNd-TIKEUTd-SIOSe-KIYEOKe-TIKEUTe-PIEUPd-SSANGSIOSd-SIOS-CIEUCd-CIEUC",
      "d-CHIEUCHd-THIEUTHd-PHIEUPHc KAPYEOUNPIEUPc KAPYEOUNSSANGPIEUPc SIOS-KIYEOKd-NIEUN",
      "d-TIKEUTd-RIEULd-MIEUMd-PIEUPe-KIYEOKd-SSANGSIOSd-IEUNGd-CIEUCd-CHIEUCHd-KHIEUKH",
      "d-THIEUTHd-PHIEUPHd-HIEUHc CHITUEUMSIOSc CHITUEUMSSANGSIOSc CEONGCHIEUMSIOS",
      "c CEONGCHIEUMSSANGSIOSc PANSIOSc IEUNG-KIYEOKd-TIKEUTd-MIEUMd-PIEUPd-SIOSd-PANSIOS",
      "c SSANGIEUNGc IEUNG-CIEUCd-CHIEUCHd-THIEUTHd-PHIEUPHc YESIEUNGc CIEUC-IEUNG",
      "c CHITUEUMCIEUCc CHITUEUMSSANGCIEUCc CEONGCHIEUMCIEUCc CEONGCHIEUMSSANGCIEUC",
      "c CHIEUCH-KHIEUKHd-HIEUHc CHITUEUMCHIEUCHc CEONGCHIEUMCHIEUCHc PHIEUPH-PIEUP",
      "c KAPYEOUNPHIEUPHc SSANGHIEUHc YEORINHIEUHc KIYEOK-TIKEUTc NIEUN-SIOSd-CIEUCd-HIEUH",
      "c TIKEUT-RIEULc FILLERb JUNGSEONG FILLERc Ac AEc YAc YAEc EOc Ec YEOc YEc Oc WAc WAEc OE",
      "c YOc Uc WEOc WEc WIc YUc EUc YIc Ic A-Od-Uc YA-Od-YOc EO-Od-Ud-EUc YEO-Od-Uc O-EOd-E",
      "d-YEd-Od-Uc YO-YAd-YAEd-YEOd-Od-Ic U-Ad-AEd-EO-EUd-YEd-Uc YU-Ad-EOd-Ed-YEOd-YEd-Ud-I",
      "c EU-Ud-EUc YI-Uc I-Ad-YAd-Od-Ud-EUd-ARAEAc ARAEAd-EOd-Ud-Ic SSANGARAEAc A-EUc YA-U",
      "c YEO-YAc O-YAd-YAEb JONGSEONG KIYEOKc SSANGKIYEOKc KIYEOK-SIOSc NIEUNd-CIEUCd-HIEUH",
      "c TIKEUTc RIEULd-KIYEOKd-MIEUMd-PIEUPd-SIOSd-THIEUTHd-PHIEUPHd-HIEUHc MIEUMc PIEUPd-SIOS",
      "c SIOSc SSANGSIOSc IEUNGc CIEUCc CHIEUCHc KHIEUKHc THIEUTHc PHIEUPHc HIEUHc KIYEOK-RIEUL",
      "d-SIOS-KIYEOKc NIEUN-KIYEOKd-TIKEUTd-SIOSd-PANSIOSd-THIEUTHc TIKEUT-KIYEOKd-RIEUL",
      "c RIEUL-KIYEOK-SIOSd-NIEUNd-TIKEUTe-HIEUHc SSANGRIEULc RIEUL-MIEUM-KIYEOKe-SIOS",
      "d-PIEUP-SIOSe-HIEUHd-KAPYEOUNPIEUPd-SSANGSIOSd-PANSIOSd-KHIEUKHd-YEORINHIEUH",
      "c MIEUM-KIYEOKd-RIEULd-PIEUPd-SIOSd-SSANGSIOSd-PANSIOSd-CHIEUCHd-HIEUHc KAPYEOUNMIEUM",
      "c PIEUP-RIEULd-PHIEUPHd-HIEUHc KAPYEOUNPIEUPc SIOS-KIYEOKd-TIKEUTd-RIEULd-PIEUPc PANSIOS",
      "c IEUNG-KIYEOKd-SSANGKIYEOKc SSANGIEUNGc IEUNG-KHIEUKHc YESIEUNGd-SIOSd-PANSIOS",
      "c PHIEUPH-PIEUPc KAPYEOUNPHIEUPHc HIEUH-NIEUNd-RIEULd-MIEUMd-PIEUPc YEORINHIEUH",
      "c KIYEOK-NIEUNd-PIEUPd-CHIEUCHd-KHIEUKHd-HIEUHc SSANGNIEUNaETHIOPIC SYLLABLE HAc HUc HI",
      "c HAAc HEEc HEc HOc HOAc LAc LUc LIc LAAc LEEc LEc LOc LWAc HHAc HHUc HHIc HHAAc HHEE",
      "c HHEc HHOc HHWAc MAc MUc MIc MAAc MEEc MEc MOc MWAc SZAc SZUc SZIc SZAAc SZEEc SZEc SZO",
      "c SZWAc RAc RUc RIc RAAc REEc REc ROc RWAc SAc SUc SIc SAAc SEEc SEc SOc SWAc SHAc SHU",
      "c SHIc SHAAc SHEEc SHEc SHOc SHWAc QAc QUc QIc QAAc QEEc QEc QOc QOAc QWA"]),
   (0x124A, ["aETHIOPIC SYLLABLE QWIc QWAAc QWEEc QWE"]),
   (0x1250, ["aETHIOPIC SYLLABLE QHAc QHUc QHIc QHAAc QHEEc QHEc QHO"]),
   (0x1258, ["aETHIOPIC SYLLABLE QHWA"]),
   (0x125A, ["aETHIOPIC SYLLABLE QHWIc QHWAAc QHWEEc QHWE"]),
   (0x1260, ["aETHIOPIC SYLLABLE BAc BUc BIc BAAc BEEc BEc BOc BWAc VAc VUc VIc VAAc VEEc VE",
      "c VOc VWAc TAc TUc TIc TAAc TEEc TEc TOc TWAc CAc CUc CIc CAAc CEEc CEc COc CWAc XAc XU",
      "c XIc XAAc XEEc XEc XOc XOAc XWA"]),
   (0x128A, ["aETHIOPIC SYLLABLE XWIc XWAAc XWEEc XWE"]),
   (0x1290, ["aETHIOPIC SYLLABLE NAc NUc NIc NAAc NEEc NEc NOc NWAc NYAc NYUc NYIc NYAAc NYEE",
      "c NYEc NYOc NYWAc GLOTTAL Ad Ud Id AAd EEd Ed Od WAc KAc KUc KIc KAAc KEEc KEc KOc KOA",
      "c KWA"]),
   (0x12B2, ["aETHIOPIC SYLLABLE KWIc KWAAc KWEEc KWE"]),
   (0x12B8, ["aETHIOPIC SYLLABLE KXAc KXUc KXIc KXAAc KXEEc KXEc KXO"]),
   (0x12C0, ["aETHIOPIC SYLLABLE KXWA"]),
   (0x12C2, ["aETHIOPIC SYLLABLE KXWIc KXWAAc KXWEEc KXWE"]),
   (0x12C8, ["aETHIOPIC SYLLABLE WAc WUc WIc WAAc WEEc WEc WOc WOAc PHARYNGEAL Ad Ud Id AAd EE",
      "d Ed O"]),
   (0x12D8, ["aETHIOPIC SYLLABLE ZAc ZUc ZIc ZAAc ZEEc ZEc ZOc ZWAc ZHAc ZHUc ZHIc ZHAAc ZHEE",
      "c ZHEc ZHOc ZHWAc YAc YUc YIc YAAc YEEc YEc YOc YOAc DAc DUc DIc DAAc DEEc DEc DOc DWA",
      "c DDAc DDUc DDIc DDAAc DDEEc DDEc DDOc DDWAc JAc JUc JIc JAAc JEEc JEc JOc JWAc GAc GU",
      "c GIc GAAc GEEc GEc GOc GOAc GWA"]),
   (0x1312, ["aETHIOPIC SYLLABLE GWIc GWAAc GWEEc GWE"]),
   (0x1318, ["aETHIOPIC SYLLABLE GGAc GGUc GGIc GGAAc GGEEc GGEc GGOc GGWAAc THAc THUc THI",
      "c THAAc THEEc THEc THOc THWAc CHAc CHUc CHIc CHAAc CHEEc CHEc CHOc CHWAc PHAc PHUc PHI",
      "c PHAAc PHEEc PHEc PHOc PHWAc TSAc TSUc TSIc TSAAc TSEEc TSEc TSOc TSWAc TZAc TZUc TZI",
      "c TZAAc TZEEc TZEc TZOc TZOAc FAc FUc FIc FAAc FEEc FEc FOc FWAc PAc PUc PIc PAAc PEE",
      "c PEc POc PWAc RYAc MYAc FYA"]),
   (0x135D, ["aETHIOPIC COMBINING GEMINATION AND VOWEL LENGTH MARKc VOWEL LENGTH MARK",
      "c GEMINATION MARKb SECTION MARKb WORDSPACEb FULL STOPb COMMAb SEMICOLONb COLON",
      "b PREFACE COLONb QUESTION MARKb PARAGRAPH SEPARATORb DIGIT ONEc TWOc THREEc FOURc FIVE",
      "c SIXc SEVENc EIGHTc NINEb NUMBER TENc TWENTYc THIRTYc FORTYc FIFTYc SIXTYc SEVENTY",
      "c EIGHTYc NINETYc HUNDREDc TEN THOUSAND"]),
   (0x1380, ["aETHIOPIC SYLLABLE SEBATBEIT MWAc MWIc MWEEc MWEc SEBATBEIT BWAc BWIc BWEEc BWE",
      "c SEBATBEIT FWAc FWIc FWEEc FWEc SEBATBEIT PWAc PWIc PWEEc PWEb TONAL MARK YIZETd DERET",
      "d RIKRIKd SHORT RIKRIKd DIFATd KENATd CHIRETd HIDETd DERET-HIDETd KURT"]),
   (0x13A0, ["aCHEROKEE LETTER Ac Ec Ic Oc Uc Vc GAc KAc GEc GIc GOc GUc GVc HAc HEc HIc HOc HU",
      "c HVc LAc LEc LIc LOc LUc LVc MAc MEc MIc MOc MUc NAc HNAc NAHc NEc NIc NOc NUc NVc QUA",
      "c QUEc QUIc QUOc QUUc QUVc SAc Sc SEc SIc SOc SUc SVc DAc TAc DEc TEc DIc TIc DOc DUc DV",
      "c DLAc TLAc TLEc TLIc TLOc TLUc TLVc TSAc TSEc TSIc TSOc TSUc TSVc WAc WEc WIc WOc WU",
      "c WVc YAc YEc YIc YOc YUc YVc MV"]),
   (0x13F8, ["aCHEROKEE SMALL LETTER YEd YId YOd YUd YVd MV"]),
   (0x1400, ["aCANADIAN SYLLABICS HYPHENc Ec AAIc Ic IIc Oc OOc Y-CREE OOc CARRIER EEd Ic Ac AA",
      "c WEc WEST-CREE WEc WIc WEST-CREE WIc WIIc WEST-CREE WIIc WOc WEST-CREE WOc WOO",
      "c WEST-CREE WOOc NASKAPI WOOc WAc WEST-CREE WAc WAAc WEST-CREE WAAc NASKAPI WAAc AI",
      "c Y-CREE Wc GLOTTAL STOPc FINAL ACUTEd GRAVEd BOTTOM HALF RINGd TOP HALF RING",
      "d RIGHT HALF RINGd RINGd DOUBLE ACUTEe SHORT VERTICAL STROKESd MIDDLE DOT",
      "d SHORT HORIZONTAL STROKEd PLUSd DOWN TACKc ENc INc ONc ANc PEc PAAIc PIc PIIc POc POO",
      "c Y-CREE POOc CARRIER HEEd HIc PAc PAAc PWEc WEST-CREE PWEc PWIc WEST-CREE PWIc PWII",
      "c WEST-CREE PWIIc PWOc WEST-CREE PWOc PWOOc WEST-CREE PWOOc PWAc WEST-CREE PWAc PWAA",
      "c WEST-CREE PWAAc Y-CREE PWAAc Pc WEST-CREE Pc CARRIER Hc TEc TAAIc TIc TIIc TOc TOO",
      "c Y-CREE TOOc CARRIER DEEd DIc TAc TAAc TWEc WEST-CREE TWEc TWIc WEST-CREE TWIc TWII",
      "c WEST-CREE TWIIc TWOc WEST-CREE TWOc TWOOc WEST-CREE TWOOc TWAc WEST-CREE TWAc TWAA",
      "c WEST-CREE TWAAc NASKAPI TWAAc Tc TTEc TTIc TTOc TTAc KEc KAAIc KIc KIIc KOc KOO",
      "c Y-CREE KOOc KAc KAAc KWEc WEST-CREE KWEc KWIc WEST-CREE KWIc KWIIc WEST-CREE KWIIc KWO",
      "c WEST-CREE KWOc KWOOc WEST-CREE KWOOc KWAc WEST-CREE KWAc KWAAc WEST-CREE KWAA",
      "c NASKAPI KWAAc Kc KWc SOUTH-SLAVEY KEHe KIHe KOHe KAHc CEc CAAIc CIc CIIc COc COO",
      "c Y-CREE COOc CAc CAAc CWEc WEST-CREE CWEc CWIc WEST-CREE CWIc CWIIc WEST-CREE CWIIc CWO",
      "c WEST-CREE CWOc CWOOc WEST-CREE CWOOc CWAc WEST-CREE CWAc CWAAc WEST-CREE CWAA",
      "c NASKAPI CWAAc Cc SAYISI THc MEc MAAIc MIc MIIc MOc MOOc Y-CREE MOOc MAc MAAc MWE",
      "c WEST-CREE MWEc MWIc WEST-CREE MWIc MWIIc WEST-CREE MWIIc MWOc WEST-CREE MWOc MWOO",
      "c WEST-CREE MWOOc MWAc WEST-CREE MWAc MWAAc WEST-CREE MWAAc NASKAPI MWAAc Mc WEST-CREE M",
      "c MHc ATHAPASCAN Mc SAYISI Mc NEc NAAIc NIc NIIc NOc NOOc Y-CREE NOOc NAc NAAc NWE",
      "c WEST-CREE NWEc NWAc WEST-CREE NWAc NWAAc WEST-CREE NWAAc NASKAPI NWAAc Nc CARRIER NG",
      "c NHc LEc LAAIc LIc LIIc LOc LOOc Y-CREE LOOc LAc LAAc LWEc WEST-CREE LWEc LWI",
      "c WEST-CREE LWIc LWIIc WEST-CREE LWIIc LWOc WEST-CREE LWOc LWOOc WEST-CREE LWOOc LWA",
      "c WEST-CREE LWAc LWAAc WEST-CREE LWAAc Lc WEST-CREE Lc MEDIAL Lc SEc SAAIc SIc SIIc SO",
      "c SOOc Y-CREE SOOc SAc SAAc SWEc WEST-CREE SWEc SWIc WEST-CREE SWIc SWIIc WEST-CREE SWII",
      "c SWOc WEST-CREE SWOc SWOOc WEST-CREE SWOOc SWAc WEST-CREE SWAc SWAAc WEST-CREE SWAA",
      "c NASKAPI SWAAc Sc ATHAPASCAN Sc SWc BLACKFOOT Sc MOOSE-CREE SKc NASKAPI SKWd S-Wd SPWA",
      "d STWAd SKWAd SCWAc SHEc SHIc SHIIc SHOc SHOOc SHAc SHAAc SHWEc WEST-CREE SHWEc SHWI",
      "c WEST-CREE SHWIc SHWIIc WEST-CREE SHWIIc SHWOc WEST-CREE SHWOc SHWOOc WEST-CREE SHWOO",
      "c SHWAc WEST-CREE SHWAc SHWAAc WEST-CREE SHWAAc SHc YEc YAAIc YIc YIIc YOc YOO",
      "c Y-CREE YOOc YAc YAAc YWEc WEST-CREE YWEc YWIc WEST-CREE YWIc YWIIc WEST-CREE YWIIc YWO",
      "c WEST-CREE YWOc YWOOc WEST-CREE YWOOc YWAc WEST-CREE YWAc YWAAc WEST-CREE YWAA",
      "c NASKAPI YWAAc Yc BIBLE-CREE Yc WEST-CREE Yc SAYISI YIc REc R-CREE REc WEST-CREE LE",
      "c RAAIc RIc RIIc ROc ROOc WEST-CREE LOc RAc RAAc WEST-CREE LAc RWAAc WEST-CREE RWAAc R",
      "c WEST-CREE Rc MEDIAL Rc FEc FAAIc FIc FIIc FOc FOOc FAc FAAc FWAAc WEST-CREE FWAAc F",
      "c THEc N-CREE THEc THIc N-CREE THIc THIIc N-CREE THIIc THOc THOOc THAc THAAc THWAA",
      "c WEST-CREE THWAAc THc TTHEc TTHIc TTHOc TTHAc TTHc TYEc TYIc TYOc TYAc NUNAVIK HEd HI",
      "d HIId HOd HOOd HAd HAAd Hc NUNAVUT Hc HKc QAAIc QIc QIIc QOc QOOc QAc QAAc Qc TLHE",
      "c TLHIc TLHOc TLHAc WEST-CREE REe RIe ROe RAc NGAAIc NGIc NGIIc NGOc NGOOc NGAc NGAAc NG",
      "c NNGc SAYISI SHEd SHId SHOd SHAc WOODS-CREE THEe THIe THOe THAe THc LHIc LHIIc LHO",
      "c LHOOc LHAc LHAAc LHc TH-CREE THEe THIe THIIe THOe THOOe THAe THAAe THc AIVILIK B",
      "c BLACKFOOT Ed Id Od Ad WEd WId WOd WAd NEd NId NOd NAd KEd KId KOd KAc SAYISI HEd HI",
      "d HOd HAc CARRIER GHUd GHOd GHEd GHEEd GHId GHAd RUd ROd REd REEd RId RAd WUd WOd WE",
      "d WEEd WId WAd HWUd HWOd HWEd HWEEd HWId HWAd THUd THOd THEd THEEd THId THAd TTUd TTO",
      "d TTEd TTEEd TTId TTAd PUd POd PEd PEEd PId PAd Pd GUd GOd GEd GEEd GId GAd KHUd KHO",
      "d KHEd KHEEd KHId KHAd KKUd KKOd KKEd KKEEd KKId KKAd KKd NUd NOd NEd NEEd NId NAd MU",
      "d MOd MEd MEEd MId MAd YUd YOd YEd YEEd YId YAd JUc SAYISI JUc CARRIER JOd JEd JEEd JI",
      "c SAYISI JIc CARRIER JAd JJUd JJOd JJEd JJEEd JJId JJAd LUd LOd LEd LEEd LId LAd DLU",
      "d DLOd DLEd DLEEd DLId DLAd LHUd LHOd LHEd LHEEd LHId LHAd TLHUd TLHOd TLHEd TLHEEd TLHI",
      "d TLHAd TLUd TLOd TLEd TLEEd TLId TLAd ZUd ZOd ZEd ZEEd ZId ZAd Zd INITIAL Zd DZUd DZO",
      "d DZEd DZEEd DZId DZAd SUd SOd SEd SEEd SId SAd SHUd SHOd SHEd SHEEd SHId SHAd SHd TSU",
      "d TSOd TSEd TSEEd TSId TSAd CHUd CHOd CHEd CHEEd CHId CHAd TTSUd TTSOd TTSEd TTSEEd TTSI",
      "d TTSAc CHI SIGNc FULL STOPc QAIc NGAIc NNGIc NNGIIc NNGOc NNGOOc NNGAc NNGAA",
      "c WOODS-CREE THWEEe THWIe THWIIe THWOe THWOOe THWAe THWAAe FINAL THc BLACKFOOT W",
      "aOGHAM SPACE MARKb LETTER BEITHc LUISc FEARNc SAILc NIONc UATHc DAIRc TINNEc COLLc CEIRT",
      "c MUINc GORTc NGEADALc STRAIFc RUISc AILMc ONNc URc EADHADHc IODHADHc EABHADHc OR",
      "c UILLEANNc IFINc EAMHANCHOLLc PEITHb FEATHER MARKb REVERSED FEATHER MARK"]),
   (0x16A0, ["aRUNIC LETTER FEHU FEOH FE Fc Vc URUZ UR Uc YRc Yc Wc THURISAZ THURS THORNc ETH",
      "c ANSUZ Ac OS Oc AC Ac AESCc LONG-BRANCH-OSS Oc SHORT-TWIG-OSS Oc Oc OEc ON",
      "c RAIDO RAD REID Rc KAUNAc CENc KAUN Kc Gc ENGc GEBO GYFU Gc GARc WUNJO WYNN Wc HAGLAZ H",
      "c HAEGL Hc LONG-BRANCH-HAGALL Hc SHORT-TWIG-HAGALL Hc NAUDIZ NYD NAUD N",
      "c SHORT-TWIG-NAUD Nc DOTTED-Nc ISAZ IS ISS Ic Ec JERAN Jc GERc LONG-BRANCH-AR AE",
      "c SHORT-TWIG-AR Ac IWAZ EOHc PERTHO PEORTH Pc ALGIZ EOLHXc SOWILO S",
      "c SIGEL LONG-BRANCH-SOL Sc SHORT-TWIG-SOL Sc Cc Zc TIWAZ TIR TYR Tc SHORT-TWIG-TYR Tc D",
      "c BERKANAN BEORC BJARKAN Bc SHORT-TWIG-BJARKAN Bc DOTTED-Pc OPEN-Pc EHWAZ EH E",
      "c MANNAZ MAN Mc LONG-BRANCH-MADR Mc SHORT-TWIG-MADR Mc LAUKAZ LAGU LOGR Lc DOTTED-L",
      "c INGWAZc INGc DAGAZ DAEG Dc OTHALAN ETHEL Oc EARc IORc CWEORTHc CALCc CEALCc STAN",
      "c LONG-BRANCH-YRc SHORT-TWIG-YRc ICELANDIC-YRc Qc Xb SINGLE PUNCTUATION",
      "b MULTIPLE PUNCTUATIONb CROSS PUNCTUATIONb ARLAUG SYMBOLb TVIMADUR SYMBOL",
      "b BELGTHOR SYMBOLb LETTER Kc SHc OOc FRANKS CASKET OSe ISe EHe ACe AESC"]),
   (0x1700, ["aTAGALOG LETTER Ac Ic Uc KAc GAc NGAc TAc DAc NAc PAc BAc MAc YAc RAc LAc WAc SA",
      "c HAb VOWEL SIGN Id Ub SIGN VIRAMAc PAMUDPOD"]),
   (0x171F, ["aTAGALOG LETTER ARCHAIC RAaHANUNOO LETTER Ac Ic Uc KAc GAc NGAc TAc DAc NAc PA",
      "c BAc MAc YAc RAc LAc WAc SAc HAb VOWEL SIGN Id Ub SIGN PAMUDPOD",
      "aPHILIPPINE SINGLE PUNCTUATIONb DOUBLE PUNCTUATION"]),
   (0x1740, ["aBUHID LETTER Ac Ic Uc KAc GAc NGAc TAc DAc NAc PAc BAc MAc YAc RAc LAc WAc SA",
      "c HAb VOWEL SIGN Id U"]),
   (0x1760, ["aTAGBANWA LETTER Ac Ic Uc KAc GAc NGAc TAc DAc NAc PAc BAc MAc YA"]),
   (0x176E, ["aTAGBANWA LETTER LAc WAc SA"]),
   (0x1772, ["aTAGBANWA VOWEL SIGN Id U"]),
   (0x1780, ["aKHMER LETTER KAc KHAc KOc KHOc NGOc CAc CHAc COc CHOc NYOc DAc TTHAc DOc TTHO",
      "c NNOc TAc THAc TOc THOc NOc BAc PHAc POc PHOc MOc YOc ROc LOc VOc SHAc SSOc SAc HAc LA",
      "c QAb INDEPENDENT VOWEL QAQd QAAd QId QIId QUd QUKd QUUd QUUVd RYd RYYd LYd LYYd QEd QAI",
      "d QOO TYPE ONEf TWOd QAUb VOWEL INHERENT AQd AAc SIGN AAd Id IId Yd YYd Ud UUd UAd OE",
      "d YAd IEd Ed AEd AId OOd AUb SIGN NIKAHITc REAHMUKc YUUKALEAPINTUc MUUSIKATOANc TRIISAP",
      "c BANTOCc ROBATc TOANDAKHIATc KAKABATc AHSDAc SAMYOK SANNYAc VIRIAMc COENGc BATHAMASAT",
      "c KHANc BARIYOOSANc CAMNUC PII KUUHc LEK TOOc BEYYALc PHNAEK MUANc KOOMUUT",
      "b CURRENCY SYMBOL RIELb SIGN AVAKRAHASANYAc ATTHACAN"]),
   (0x17E0, ["aKHMER DIGIT ZEROc ONEc TWOc THREEc FOURc FIVEc SIXc SEVENc EIGHTc NINE"]),
   (0x17F0, ["aKHMER SYMBOL LEK ATTAK SONe MUOYe PIIe BEIe BUONe PRAMf-MUOYf-PIIf-BEIf-BUON"]),
   (0x1800, ["aMONGOLIAN BIRGAb ELLIPSISb COMMAb FULL STOPb COLONb FOUR DOTSb TODO SOFT HYPHEN",
      "b SIBE SYLLABLE BOUNDARY MARKERb MANCHU COMMAc FULL STOPb NIRUGU",
      "b FREE VARIATION SELECTOR ONEe TWOe THREEb VOWEL SEPARATORb FREE VARIATION SELECTOR FOUR",
      "b DIGIT ZEROc ONEc TWOc THREEc FOURc FIVEc SIXc SEVENc EIGHTc NINE"]),
   (0x1820, ["aMONGOLIAN LETTER Ac Ec Ic Oc Uc OEc UEc EEc NAc ANGc BAc PAc QAc GAc MAc LAc SA",
      "c SHAc TAc DAc CHAc JAc YAc RAc WAc FAc KAc KHAc TSAc ZAc HAAc ZRAc LHAc ZHIc CHI",
      "c TODO LONG VOWEL SIGNd Ed Id Od Ud OEd UEd ANGd BAd PAd QAd GAd MAd TAd DAd CHAd JA",
      "d TSAd YAd WAd KAd GAAd HAAd JIAd NIAd DZAc SIBE Ed Id IYd UEd Ud ANGd KAd GAd HAd PA",
      "d SHAd TAd DAd JAd FAd GAAd HAAd TSAd ZAd RAAd CHAd ZHAc MANCHU Id KAd RAd FAd ZHA",
      "c CHA WITH TWO DOTS"]),
   (0x1880, ["aMONGOLIAN LETTER ALI GALI ANUSVARA ONEe VISARGA ONEe DAMARUe UBADAMA",
      "e INVERTED UBADAMAe BALUDAe THREE BALUDAe Ae Ie KAe NGAe CAe TTAe TTHAe DDAe NNAe TAe DA",
      "e PAe PHAe SSAe ZHAe ZAe AHc TODO ALI GALI TAf ZHAc MANCHU ALI GALI GHAf NGAf CAf JHA",
      "f TTAf DDHAf TAf DHAf SSAf CYAf ZHAf ZAc ALI GALI HALF Uf YAc MANCHU ALI GALI BHA",
      "c ALI GALI DAGALGAc MANCHU ALI GALI LHA"]),
   (0x18B0, ["aCANADIAN SYLLABICS OYc AYc AAYc WAYc POYc PAYc PWOYc TAYc KAYc KWAYc MAYc NOY",
      "c NAYc LAYc SOYc SAYc SHOYc SHAYc SHWOYc YOYc YAYc RAYc NWIc OJIBWAY NWIc NWII",
      "c OJIBWAY NWIIc NWOc OJIBWAY NWOc NWOOc OJIBWAY NWOOc RWEEc RWIc RWIIc RWOc RWOOc RWA",
      "c OJIBWAY Pd Td Kd Cd Md Nd Sd SHc EASTERN Wc WESTERN Wc FINAL SMALL RINGd RAISED DOT",
      "c R-CREE RWEc WEST-CREE LOOe LAAc THWEc THWAc TTHWEc TTHOOc TTHAAc TLHWEc TLHOO",
      "c SAYISI SHWEd SHOOd HOOc CARRIER GWUd DENE GEEd GAAd GWAc SAYISI JUUc CARRIER JWA",
      "c BEAVER DENE Le Rc CARRIER DENTAL S"]),
   (0x1900, ["aLIMBU VOWEL-CARRIER LETTERb LETTER KAc KHAc GAc GHAc NGAc CAc CHAc JAc JHAc YAN",
      "c TAc THAc DAc DHAc NAc PAc PHAc BAc BHAc MAc YAc RAc LAc WAc SHAc SSAc SAc HAc GYAN",
      "c TRA"]),
   (0x1920, ["aLIMBU VOWEL SIGN Ad Id Ud EEd AId OOd AUd Ed Ob SUBJOINED LETTER YAd RAd WA"]),
   (0x1930, ["aLIMBU SMALL LETTER KAd NGAd ANUSVARAd TAd NAd PAd MAd RAd LAb SIGN MUKPHRENG",
      "c KEMPHRENGc SA-I"]),
   (0x1940, ["aLIMBU SIGN LOO"]),
   (0x1944, ["aLIMBU EXCLAMATION MARKb QUESTION MARKb DIGIT ZEROc ONEc TWOc THREEc FOURc FIVE",
      "c SIXc SEVENc EIGHTc NINEaTAI LE LETTER KAd XAd NGAd TSAd SAd YAd TAd THAd LAd PAd PHA",
      "d MAd FAd VAd HAd QAd KHAd TSHAd NAd Ad Id EEd EHd Ud OOd Od UEd Ed AUEd AI"]),
   (0x1970, ["aTAI LE LETTER TONE-2e-3e-4e-5e-6"]),
   (0x1980, ["aNEW TAI LUE LETTER HIGH QAe LOW QAe HIGH KAf XAf NGAe LOW KAf XAf NGAe HIGH TSA",
      "f SAf YAe LOW TSAf SAf YAe HIGH TAf THAf NAe LOW TAf THAf NAe HIGH PAf PHAf MAe LOW PA",
      "f PHAf MAe HIGH FAf VAf LAe LOW FAf VAf LAe HIGH HAf DAf BAe LOW HAf DAf BAe HIGH KVA",
      "f XVAe LOW KVAf XVAe HIGH SUAe LOW SUA"]),
   (0x19B0, ["aNEW TAI LUE VOWEL SIGN VOWEL SHORTENERf AAf IIf Uf UUf Ef AEf Of OAf UEf AYf AAY",
      "f UYf OYf OAYf UEYf IYd LETTER FINAL Vf NGf Nf Mf Kf Df Bd TONE MARK-1f-2"]),
   (0x19D0, ["aNEW TAI LUE DIGIT ZEROe ONEe TWOe THREEe FOURe FIVEe SIXe SEVENe EIGHTe NINE",
      "d THAM DIGIT ONE"]),
   (0x19DE, ["aNEW TAI LUE SIGN LAEe LAEVaKHMER SYMBOL PATHAMASATc MUOY KOETc PII KOET",
      "c BEI KOETc BUON KOETc PRAM KOETd-MUOY KOETd-PII KOETd-BEI KOETd-BUON KOETc DAP KOET",
      "d-MUOY KOETd-PII KOETd-BEI KOETd-BUON KOETd-PRAM KOETc TUTEYASATc MUOY ROCc PII ROC",
      "c BEI ROCc BUON ROCc PRAM ROCd-MUOY ROCd-PII ROCd-BEI ROCd-BUON ROCc DAP ROCd-MUOY ROC",
      "d-PII ROCd-BEI ROCd-BUON ROCd-PRAM ROCaBUGINESE LETTER KAc GAc NGAc NGKAc PAc BAc MA",
      "c MPAc TAc DAc NAc NRAc CAc JAc NYAc NYCAc YAc RAc LAc VAc SAc Ac HAb VOWEL SIGN Id Ud E",
      "d Od AE"]),
   (0x1A1E, ["aBUGINESE PALLAWAb END OF SECTIONaTAI THAM LETTER HIGH KAe KHAe KXAd LOW KAe KXA",
      "e KHAd NGAd HIGH CAe CHAd LOW CAe SAe CHAd NYAd RATAd HIGH RATHAd DAd LOW RATHAd RANA",
      "d HIGH TAe THAd LOW TAe THAd NAd BAd HIGH PAe PHAe FAd LOW PAe FAe PHAd MAd LOW YA",
      "d HIGH YAd RAd RUEd LAd LUEd WAd HIGH SHAe SSAe SAe HAd LLAd Ad LOW HAd Id IId Ud UUd EE",
      "d OOd LAEd GREAT SAc CONSONANT SIGN MEDIAL RAf LAe LA TANG LAIc SIGN MAI KANG LAI",
      "c CONSONANT SIGN FINAL NGAe LOW PAe HIGH RATHA OR LOW PAe MAe BAe SA"]),
   (0x1A60, ["aTAI THAM SIGN SAKOTc VOWEL SIGN Ae MAI SATe AAe TALL AAe Ie IIe UEe UUEe Ue UU",
      "e Oe OA BELOWe OYe Ee AEe OOe AIe THAM AIe OA ABOVEc SIGN MAI KANGd TONE-1e-2",
      "d KHUEN TONE-3f-4f-5d RA HAAMd MAI SAMd KHUEN-LUE KARAN"]),
   (0x1A7F, ["aTAI THAM COMBINING CRYPTOGRAMMIC DOTc HORA DIGIT ZEROe ONEe TWOe THREEe FOUR",
      "e FIVEe SIXe SEVENe EIGHTe NINE"]),
   (0x1A90, ["aTAI THAM THAM DIGIT ZEROe ONEe TWOe THREEe FOURe FIVEe SIXe SEVENe EIGHTe NINE"]),
   (0x1AA0, ["aTAI THAM SIGN WIANGd WIANGWAAKd SAWANd KEOWd HOYd DOKMAId REVERSED ROTATED RANA",
      "d MAI YAMOKd KAANd KAANKUUd SATKAANd SATKAANKUUd HANGd CAANG"]),
   (0x1AB0, ["aCOMBINING DOUBLED CIRCUMFLEX ACCENTb DIAERESIS-RINGb INFINITYb DOWNWARDS ARROW",
      "b TRIPLE DOTb X-X BELOWb WIGGLY LINE BELOWb OPEN MARK BELOWb DOUBLE OPEN MARK BELOW",
      "b LIGHT CENTRALIZATION STROKE BELOWb STRONG CENTRALIZATION STROKE BELOW",
      "b PARENTHESES ABOVEb DOUBLE PARENTHESES ABOVEb PARENTHESES BELOWc OVERLAY",
      "b LATIN SMALL LETTER W BELOWe TURNED W BELOWb LEFT PARENTHESIS ABOVE LEFT",
      "b RIGHT PARENTHESIS ABOVE RIGHTb LEFT PARENTHESIS BELOW LEFT",
      "b RIGHT PARENTHESIS BELOW RIGHTb SQUARE BRACKETS ABOVEb NUMBER SIGN ABOVE",
      "b INVERTED DOUBLE ARCH ABOVEb PLUS SIGN ABOVEb DOUBLE PLUS SIGN ABOVEe BELOW",
      "b TRIPLE ACUTE ACCENTb LATIN SMALL LETTER INSULAR Gf Rf T"]),
   (0x1B00, ["aBALINESE SIGN ULU RICEMd CANDRAc CECEKc SURANGc BISAHb LETTER AKARAd TEDUNG",
      "c IKARAd TEDUNGc UKARAd TEDUNGc RA REPAe TEDUNGc LA LENGAe TEDUNGc EKARAc AIKARAc OKARA",
      "d TEDUNGc KAd MAHAPRANAc GAd GORAc NGAc CAd LACAc JAd JERAc NYAc TA LATIK",
      "d MURDA MAHAPRANAc DA MURDA ALPAPRANAe MAHAPRANAc NA RAMBATc TAd TAWAc DAd MADUc NAc PA",
      "d KAPALc BAd KEMBANGc MAc YAc RAc LAc WAc SA SAGAd SAPAdc HAb SIGN REREKAN",
      "b VOWEL SIGN TEDUNGd ULUe SARId SUKUe ILUTd RA REPAf TEDUNGd LA LENGAf TEDUNGd TALING",
      "e REPAe TEDUNGe REPA TEDUNGd PEPETe TEDUNGb ADEG ADEGb LETTER KAF SASAKc KHOT SASAK",
      "c TZIR SASAKc EF SASAKc VE SASAKc ZAL SASAKc ASYURA SASAKc ARCHAIC JNYA"]),
   (0x1B50, ["aBALINESE DIGIT ZEROc ONEc TWOc THREEc FOURc FIVEc SIXc SEVENc EIGHTc NINEb PANTI",
      "b PAMADAb WINDUb CARIK PAMUNGKAHc SIKIc PARERENb PAMENENGb MUSICAL SYMBOL DONGd DENG",
      "d DUNGd DANGe SURANGd DINGd DAENGd DEUNGd DAINGd DANG GEDEd COMBINING TEGEHe ENDEP",
      "e KEMPULe KEMPLIe JEGOGANe KEMPUL WITH JEGOGANe KEMPLI WITH JEGOGANe BENDEe GONG",
      "d RIGHT-HAND OPEN DUGg DAGf CLOSED TUKg TAKd LEFT-HAND OPEN PANGg PUNGf CLOSED PLAK",
      "g PLUKf OPEN PINGb PANTI LANTANGb PAMADA LANTANG"]),
   (0x1B80, ["aSUNDANESE SIGN PANYECEKc PANGLAYARc PANGWISADb LETTER Ac Ic Uc AEc Oc Ec EUc KA",
      "c QAc GAc NGAc CAc JAc ZAc NYAc TAc DAc NAc PAc FAc VAc BAc MAc YAc RAc LAc WAc SAc XA",
      "c HAb CONSONANT SIGN PAMINGKALd PANYAKRAd PANYIKUb VOWEL SIGN PANGHULUd PANYUKU",
      "d PANAELAENGd PANOLONGd PAMEPETd PANEULEUNGb SIGN PAMAAEHc VIRAMA",
      "b CONSONANT SIGN PASANGAN MAe WAb LETTER KHAc SYAb DIGIT ZEROc ONEc TWOc THREEc FOUR",
      "c FIVEc SIXc SEVENc EIGHTc NINEb AVAGRAHAb LETTER REUc LEUc BHAc FINAL Kd M",
      "aBATAK LETTER Ac SIMALUNGUN Ac HAc SIMALUNGUN HAc MANDAILING HAc BAc KARO BAc PA",
      "c SIMALUNGUN PAc NAc MANDAILING NAc WAc SIMALUNGUN WAc PAKPAK WAc GAc SIMALUNGUN GAc JA",
      "c DAc RAc SIMALUNGUN RAc MAc SIMALUNGUN MAc SOUTHERN TAc NORTHERN TAc SAc SIMALUNGUN SA",
      "c MANDAILING SAc YAc SIMALUNGUN YAc NGAc LAc SIMALUNGUN LAc NYAc CAc NDAc MBAc Ic U",
      "b SIGN TOMPIb VOWEL SIGN Ed PAKPAK Ed EEd Id KARO Id Od KARO Od Ue FOR SIMALUNGUN SA",
      "b CONSONANT SIGN NGd Hb PANGOLATb PANONGONAN"]),
   (0x1BFC, ["aBATAK SYMBOL BINDU NA METEKd PINARBORASd JUDULd PANGOLATaLEPCHA LETTER KAc KLA",
      "c KHAc GAc GLAc NGAc CAc CHAc JAc NYAc TAc THAc DAc NAc PAc PLAc PHAc FAc FLAc BAc BLA",
      "c MAc MLAc TSAc TSHAc DZAc YAc RAc LAc HAc HLAc VAc SAc SHAc WAc Ab SUBJOINED LETTER YA",
      "d RAb VOWEL SIGN AAd Id Od OOd Ud UUd Eb CONSONANT SIGN Kd Md Ld Nd Pd Rd Td NYIN-DO",
      "d KANGb SIGN RANc NUKTA"]),
   (0x1C3B, ["aLEPCHA PUNCTUATION TA-ROLc NYET THYOOM TA-ROLc CER-WAc TSHOOK CER-WAd",
      "b DIGIT ZEROc ONEc TWOc THREEc FOURc FIVEc SIXc SEVENc EIGHTc NINE"]),
   (0x1C4D, ["aLEPCHA LETTER TTAc TTHAc DDAaOL CHIKI DIGIT ZEROd ONEd TWOd THREEd FOURd FIVE",
      "d SIXd SEVENd EIGHTd NINEc LETTER LAd ATd AGd ANGd ALd LAAd AAKd AAJd AAMd AAWd LId IS",
      "d IHd INYd IRd LUd UCd UDd UNNd UYd LEd EPd EDDd ENd ERRd LOd OTTd OBd OVd OH",
      "c MU TTUDDAGc GAAHLAA TTUDDAAGc MU-GAAHLAA TTUDDAAGc RELAAc PHAARKAAc AHAD",
      "c PUNCTUATION MUCAADd DOUBLE MUCAADaCYRILLIC SMALL LETTER ROUNDED VEd LONG-LEGGED DE",
      "d NARROW Od WIDE ESd TALL TEd THREE-LEGGED TEd TALL HARD SIGNe YATd UNBLENDED UK"]),
   (0x1C90, ["aGEORGIAN MTAVRULI CAPITAL LETTER ANe BANe GANe DONe ENe VINe ZENe TANe INe KAN",
      "e LASe MANe NARe ONe PARe ZHARe RAEe SANe TARe UNe PHARe KHARe GHANe QARe SHINe CHIN",
      "e CANe JILe CILe CHARe XANe JHANe HAEe HEe HIEe WEe HARe HOEe FIe YNe ELIFIe TURNED GAN",
      "e AIN"]),
   (0x1CBD, ["aGEORGIAN MTAVRULI CAPITAL LETTER AENe HARD SIGNe LABIAL SIGN",
      "aSUNDANESE PUNCTUATION BINDU SURYAd PANGLONGd PURNAMAd CAKRAd LEU SATANGAd KA SATANGA",
      "d DA SATANGAd BA SATANGA"]),
   (0x1CD0, ["aVEDIC TONE KARSHANAc SHARAc PRENKHAb SIGN NIHSHVASAc YAJURVEDIC MIDLINE SVARITA",
      "b TONE YAJURVEDIC AGGRAVATED INDEPENDENT SVARITAd INDEPENDENT SVARITA",
      "d KATHAKA INDEPENDENT SVARITAc CANDRA BELOW",
      "c YAJURVEDIC KATHAKA INDEPENDENT SVARITA SCHROEDERc DOUBLE SVARITAc TRIPLE SVARITA",
      "c KATHAKA ANUDATTAc DOT BELOWc TWO DOTS BELOWc THREE DOTS BELOW",
      "c RIGVEDIC KASHMIRI INDEPENDENT SVARITAc ATHARVAVEDIC INDEPENDENT SVARITA",
      "b SIGN VISARGA SVARITAd UDATTAc REVERSED VISARGA UDATTAc VISARGA ANUDATTA",
      "c REVERSED VISARGA ANUDATTAc VISARGA UDATTA WITH TAILd ANUDATTA WITH TAIL",
      "c ANUSVARA ANTARGOMUKHAd BAHIRGOMUKHAd VAMAGOMUKHAe WITH TAILc TIRYAK",
      "c HEXIFORM LONG ANUSVARAc LONG ANUSVARAc RTHANG LONG ANUSVARAc ANUSVARA UBHAYATO MUKHA",
      "c ARDHAVISARGAc ROTATED ARDHAVISARGAb TONE CANDRA ABOVEb SIGN JIHVAMULIYAc UPADHMANIYA",
      "c ATIKRAMAb TONE RING ABOVEc DOUBLE RING ABOVEb SIGN DOUBLE ANUSVARA ANTARGOMUKHA"]),
   (0x1D00, ["aLATIN LETTER SMALL CAPITAL Ae AEb SMALL LETTER TURNED AE",
      "b LETTER SMALL CAPITAL BARRED Be Ce De ETHe Eb SMALL LETTER TURNED OPEN Ee I",
      "b LETTER SMALL CAPITAL Je Ke L WITH STROKEe Me REVERSED Ne Oe OPEN O",
      "b SMALL LETTER SIDEWAYS Oe OPEN Oe O WITH STROKEd TURNED OEb LETTER SMALL CAPITAL OU",
      "b SMALL LETTER TOP HALF Od BOTTOM HALF Ob LETTER SMALL CAPITAL Pe REVERSED Re TURNED R",
      "e Te Ub SMALL LETTER SIDEWAYS Ue DIAERESIZED Ue TURNED Mb LETTER SMALL CAPITAL Ve We Z",
      "e EZHc VOICED LARYNGEAL SPIRANTc AINaGREEK LETTER SMALL CAPITAL GAMMAe LAMDAe PIe RHO",
      "e PSIaCYRILLIC LETTER SMALL CAPITAL ELaMODIFIER LETTER CAPITAL Ad AEd Bd BARRED Bd Dd E",
      "d REVERSED Ed Gd Hd Id Jd Kd Ld Md Nd REVERSED Nd Od OUd Pd Rd Td Ud Wc SMALL A",
      "d TURNED Ad ALPHAd TURNED AEd Bd Dd Ed SCHWAd OPEN Ed TURNED OPEN Ed Gd TURNED Id Kd M",
      "d ENGd Od OPEN Od TOP HALF Od BOTTOM HALF Od Pd Td Ud SIDEWAYS Ud TURNED Md Vd AINd BETA",
      "d GREEK GAMMAd DELTAd GREEK PHId CHIaLATIN SUBSCRIPT SMALL LETTER Ie Re Ue V",
      "aGREEK SUBSCRIPT SMALL LETTER BETAe GAMMAe RHOe PHIe CHIaLATIN SMALL LETTER UE",
      "d B WITH MIDDLE TILDEd D WITH MIDDLE TILDEd F WITH MIDDLE TILDEd M WITH MIDDLE TILDE",
      "d N WITH MIDDLE TILDEd P WITH MIDDLE TILDEd R WITH MIDDLE TILDE",
      "f FISHHOOK AND MIDDLE TILDEd S WITH MIDDLE TILDEd T WITH MIDDLE TILDE",
      "d Z WITH MIDDLE TILDEd TURNED GaMODIFIER LETTER CYRILLIC ENaLATIN SMALL LETTER INSULAR G",
      "d TH WITH STRIKETHROUGHc CAPITAL LETTER I WITH STROKEc LETTER IOTA WITH STROKE",
      "d P WITH STROKEc CAPITAL LETTER U WITH STROKEc LETTER UPSILON WITH STROKE",
      "d B WITH PALATAL HOOKd D WITH PALATAL HOOKd F WITH PALATAL HOOKd G WITH PALATAL HOOK",
      "d K WITH PALATAL HOOKd L WITH PALATAL HOOKd M WITH PALATAL HOOKd N WITH PALATAL HOOK",
      "d P WITH PALATAL HOOKd R WITH PALATAL HOOKd S WITH PALATAL HOOKd ESH WITH PALATAL HOOK",
      "d V WITH PALATAL HOOKd X WITH PALATAL HOOKd Z WITH PALATAL HOOKd A WITH RETROFLEX HOOK",
      "d ALPHA WITH RETROFLEX HOOKd D WITH HOOK AND TAILd E WITH RETROFLEX HOOK",
      "d OPEN E WITH RETROFLEX HOOKd REVERSED OPEN E WITH RETROFLEX HOOK",
      "d SCHWA WITH RETROFLEX HOOKd I WITH RETROFLEX HOOKd OPEN O WITH RETROFLEX HOOK",
      "d ESH WITH RETROFLEX HOOKd U WITH RETROFLEX HOOKd EZH WITH RETROFLEX HOOK",
      "aMODIFIER LETTER SMALL TURNED ALPHAd Ce WITH CURLd ETHd REVERSED OPEN Ed F",
      "d DOTLESS J WITH STROKEd SCRIPT Gd TURNED Hd I WITH STROKEd IOTAd CAPITAL If WITH STROKE",
      "d J WITH CROSSED-TAILd L WITH RETROFLEX HOOKf PALATAL HOOKd CAPITAL Ld M WITH HOOK",
      "d TURNED M WITH LONG LEGd N WITH LEFT HOOKf RETROFLEX HOOKd CAPITAL Nd BARRED Od PHI",
      "d S WITH HOOKd ESHd T WITH PALATAL HOOKd U BARd UPSILONd CAPITAL Ud V WITH HOOK",
      "d TURNED Vd Ze WITH RETROFLEX HOOKf CURLd EZHd THETAaCOMBINING DOTTED GRAVE ACCENT",
      "c ACUTE ACCENTb SNAKE BELOWb SUSPENSION MARKb MACRON-ACUTEb GRAVE-MACRONb MACRON-GRAVE",
      "b ACUTE-MACRONb GRAVE-ACUTE-GRAVEb ACUTE-GRAVE-ACUTEb LATIN SMALL LETTER R BELOW",
      "b BREVE-MACRONb MACRON-BREVEb DOUBLE CIRCUMFLEX ABOVEb OGONEK ABOVEb ZIGZAG BELOW",
      "b IS BELOWb UR ABOVEb US ABOVEb LATIN SMALL LETTER FLATTENED OPEN A ABOVEe AEe AOe AV",
      "e C CEDILLAe INSULAR De ETHe Gc LETTER SMALL CAPITAL Gc SMALL LETTER Ke L",
      "c LETTER SMALL CAPITAL Lf Mc SMALL LETTER Nc LETTER SMALL CAPITAL Nf R",
      "c SMALL LETTER R ROTUNDAe Se LONG Se Ze ALPHAe Be BETAe SCHWAe F",
      "e L WITH DOUBLE MIDDLE TILDEe O WITH LIGHT CENTRALIZATION STROKEe Pe ESH",
      "e U WITH LIGHT CENTRALIZATION STROKEe We A WITH DIAERESISe O WITH DIAERESIS",
      "e U WITH DIAERESISb UP TACK ABOVEb KAVYKA ABOVE RIGHTd LEFTb DOT ABOVE LEFT",
      "b WIDE INVERTED BRIDGE BELOWb DOT BELOW LEFTb DELETION MARKb DOUBLE INVERTED BREVE BELOW",
      "b ALMOST EQUAL TO BELOWb LEFT ARROWHEAD ABOVEb RIGHT ARROWHEAD AND DOWN ARROWHEAD BELOW",
      "aLATIN CAPITAL LETTER A WITH RING BELOWb SMALL LETTER A WITH RING BELOW",
      "b CAPITAL LETTER B WITH DOT ABOVEb SMALL LETTER B WITH DOT ABOVE",
      "b CAPITAL LETTER B WITH DOT BELOWb SMALL LETTER B WITH DOT BELOW",
      "b CAPITAL LETTER B WITH LINE BELOWb SMALL LETTER B WITH LINE BELOW",
      "b CAPITAL LETTER C WITH CEDILLA AND ACUTEb SMALL LETTER C WITH CEDILLA AND ACUTE",
      "b CAPITAL LETTER D WITH DOT ABOVEb SMALL LETTER D WITH DOT ABOVE",
      "b CAPITAL LETTER D WITH DOT BELOWb SMALL LETTER D WITH DOT BELOW",
      "b CAPITAL LETTER D WITH LINE BELOWb SMALL LETTER D WITH LINE BELOW",
      "b CAPITAL LETTER D WITH CEDILLAb SMALL LETTER D WITH CEDILLA",
      "b CAPITAL LETTER D WITH CIRCUMFLEX BELOWb SMALL LETTER D WITH CIRCUMFLEX BELOW",
      "b CAPITAL LETTER E WITH MACRON AND GRAVEb SMALL LETTER E WITH MACRON AND GRAVE",
      "b CAPITAL LETTER E WITH MACRON AND ACUTEb SMALL LETTER E WITH MACRON AND ACUTE",
      "b CAPITAL LETTER E WITH CIRCUMFLEX BELOWb SMALL LETTER E WITH CIRCUMFLEX BELOW",
      "b CAPITAL LETTER E WITH TILDE BELOWb SMALL LETTER E WITH TILDE BELOW",
      "b CAPITAL LETTER E WITH CEDILLA AND BREVEb SMALL LETTER E WITH CEDILLA AND BREVE",
      "b CAPITAL LETTER F WITH DOT ABOVEb SMALL LETTER F WITH DOT ABOVE",
      "b CAPITAL LETTER G WITH MACRONb SMALL LETTER G WITH MACRON",
      "b CAPITAL LETTER H WITH DOT ABOVEb SMALL LETTER H WITH DOT ABOVE",
      "b CAPITAL LETTER H WITH DOT BELOWb SMALL LETTER H WITH DOT BELOW",
      "b CAPITAL LETTER H WITH DIAERESISb SMALL LETTER H WITH DIAERESIS",
      "b CAPITAL LETTER H WITH CEDILLAb SMALL LETTER H WITH CEDILLA",
      "b CAPITAL LETTER H WITH BREVE BELOWb SMALL LETTER H WITH BREVE BELOW",
      "b CAPITAL LETTER I WITH TILDE BELOWb SMALL LETTER I WITH TILDE BELOW",
      "b CAPITAL LETTER I WITH DIAERESIS AND ACUTEb SMALL LETTER I WITH DIAERESIS AND ACUTE",
      "b CAPITAL LETTER K WITH ACUTEb SMALL LETTER K WITH ACUTE",
      "b CAPITAL LETTER K WITH DOT BELOWb SMALL LETTER K WITH DOT BELOW",
      "b CAPITAL LETTER K WITH LINE BELOWb SMALL LETTER K WITH LINE BELOW",
      "b CAPITAL LETTER L WITH DOT BELOWb SMALL LETTER L WITH DOT BELOW",
      "b CAPITAL LETTER L WITH DOT BELOW AND MACRONb SMALL LETTER L WITH DOT BELOW AND MACRON",
      "b CAPITAL LETTER L WITH LINE BELOWb SMALL LETTER L WITH LINE BELOW",
      "b CAPITAL LETTER L WITH CIRCUMFLEX BELOWb SMALL LETTER L WITH CIRCUMFLEX BELOW",
      "b CAPITAL LETTER M WITH ACUTEb SMALL LETTER M WITH ACUTE",
      "b CAPITAL LETTER M WITH DOT ABOVEb SMALL LETTER M WITH DOT ABOVE",
      "b CAPITAL LETTER M WITH DOT BELOWb SMALL LETTER M WITH DOT BELOW",
      "b CAPITAL LETTER N WITH DOT ABOVEb SMALL LETTER N WITH DOT ABOVE",
      "b CAPITAL LETTER N WITH DOT BELOWb SMALL LETTER N WITH DOT BELOW",
      "b CAPITAL LETTER N WITH LINE BELOWb SMALL LETTER N WITH LINE BELOW",
      "b CAPITAL LETTER N WITH CIRCUMFLEX BELOWb SMALL LETTER N WITH CIRCUMFLEX BELOW",
      "b CAPITAL LETTER O WITH TILDE AND ACUTEb SMALL LETTER O WITH TILDE AND ACUTE",
      "b CAPITAL LETTER O WITH TILDE AND DIAERESISb SMALL LETTER O WITH TILDE AND DIAERESIS",
      "b CAPITAL LETTER O WITH MACRON AND GRAVEb SMALL LETTER O WITH MACRON AND GRAVE",
      "b CAPITAL LETTER O WITH MACRON AND ACUTEb SMALL LETTER O WITH MACRON AND ACUTE",
      "b CAPITAL LETTER P WITH ACUTEb SMALL LETTER P WITH ACUTE",
      "b CAPITAL LETTER P WITH DOT ABOVEb SMALL LETTER P WITH DOT ABOVE",
      "b CAPITAL LETTER R WITH DOT ABOVEb SMALL LETTER R WITH DOT ABOVE",
      "b CAPITAL LETTER R WITH DOT BELOWb SMALL LETTER R WITH DOT BELOW",
      "b CAPITAL LETTER R WITH DOT BELOW AND MACRONb SMALL LETTER R WITH DOT BELOW AND MACRON",
      "b CAPITAL LETTER R WITH LINE BELOWb SMALL LETTER R WITH LINE BELOW",
      "b CAPITAL LETTER S WITH DOT ABOVEb SMALL LETTER S WITH DOT ABOVE",
      "b CAPITAL LETTER S WITH DOT BELOWb SMALL LETTER S WITH DOT BELOW",
      "b CAPITAL LETTER S WITH ACUTE AND DOT ABOVEb SMALL LETTER S WITH ACUTE AND DOT ABOVE",
      "b CAPITAL LETTER S WITH CARON AND DOT ABOVEb SMALL LETTER S WITH CARON AND DOT ABOVE",
      "b CAPITAL LETTER S WITH DOT BELOW AND DOT ABOVE",
      "b SMALL LETTER S WITH DOT BELOW AND DOT ABOVEb CAPITAL LETTER T WITH DOT ABOVE",
      "b SMALL LETTER T WITH DOT ABOVEb CAPITAL LETTER T WITH DOT BELOW",
      "b SMALL LETTER T WITH DOT BELOWb CAPITAL LETTER T WITH LINE BELOW",
      "b SMALL LETTER T WITH LINE BELOWb CAPITAL LETTER T WITH CIRCUMFLEX BELOW",
      "b SMALL LETTER T WITH CIRCUMFLEX BELOWb CAPITAL LETTER U WITH DIAERESIS BELOW",
      "b SMALL LETTER U WITH DIAERESIS BELOWb CAPITAL LETTER U WITH TILDE BELOW",
      "b SMALL LETTER U WITH TILDE BELOWb CAPITAL LETTER U WITH CIRCUMFLEX BELOW",
      "b SMALL LETTER U WITH CIRCUMFLEX BELOWb CAPITAL LETTER U WITH TILDE AND ACUTE",
      "b SMALL LETTER U WITH TILDE AND ACUTEb CAPITAL LETTER U WITH MACRON AND DIAERESIS",
      "b SMALL LETTER U WITH MACRON AND DIAERESISb CAPITAL LETTER V WITH TILDE",
      "b SMALL LETTER V WITH TILDEb CAPITAL LETTER V WITH DOT BELOW",
      "b SMALL LETTER V WITH DOT BELOWb CAPITAL LETTER W WITH GRAVEb SMALL LETTER W WITH GRAVE",
      "b CAPITAL LETTER W WITH ACUTEb SMALL LETTER W WITH ACUTE",
      "b CAPITAL LETTER W WITH DIAERESISb SMALL LETTER W WITH DIAERESIS",
      "b CAPITAL LETTER W WITH DOT ABOVEb SMALL LETTER W WITH DOT ABOVE",
      "b CAPITAL LETTER W WITH DOT BELOWb SMALL LETTER W WITH DOT BELOW",
      "b CAPITAL LETTER X WITH DOT ABOVEb SMALL LETTER X WITH DOT ABOVE",
      "b CAPITAL LETTER X WITH DIAERESISb SMALL LETTER X WITH DIAERESIS",
      "b CAPITAL LETTER Y WITH DOT ABOVEb SMALL LETTER Y WITH DOT ABOVE",
      "b CAPITAL LETTER Z WITH CIRCUMFLEXb SMALL LETTER Z WITH CIRCUMFLEX",
      "b CAPITAL LETTER Z WITH DOT BELOWb SMALL LETTER Z WITH DOT BELOW",
      "b CAPITAL LETTER Z WITH LINE BELOWb SMALL LETTER Z WITH LINE BELOWd H WITH LINE BELOW",
      "d T WITH DIAERESISd W WITH RING ABOVEd Y WITH RING ABOVEd A WITH RIGHT HALF RING",
      "d LONG S WITH DOT ABOVEg DIAGONAL STROKEg HIGH STROKEb CAPITAL LETTER SHARP S",
      "b SMALL LETTER DELTAb CAPITAL LETTER A WITH DOT BELOWb SMALL LETTER A WITH DOT BELOW",
      "b CAPITAL LETTER A WITH HOOK ABOVEb SMALL LETTER A WITH HOOK ABOVE",
      "b CAPITAL LETTER A WITH CIRCUMFLEX AND ACUTEb SMALL LETTER A WITH CIRCUMFLEX AND ACUTE",
      "b CAPITAL LETTER A WITH CIRCUMFLEX AND GRAVEb SMALL LETTER A WITH CIRCUMFLEX AND GRAVE",
      "b CAPITAL LETTER A WITH CIRCUMFLEX AND HOOK ABOVE",
      "b SMALL LETTER A WITH CIRCUMFLEX AND HOOK ABOVE",
      "b CAPITAL LETTER A WITH CIRCUMFLEX AND TILDEb SMALL LETTER A WITH CIRCUMFLEX AND TILDE",
      "b CAPITAL LETTER A WITH CIRCUMFLEX AND DOT BELOW",
      "b SMALL LETTER A WITH CIRCUMFLEX AND DOT BELOWb CAPITAL LETTER A WITH BREVE AND ACUTE",
      "b SMALL LETTER A WITH BREVE AND ACUTEb CAPITAL LETTER A WITH BREVE AND GRAVE",
      "b SMALL LETTER A WITH BREVE AND GRAVEb CAPITAL LETTER A WITH BREVE AND HOOK ABOVE",
      "b SMALL LETTER A WITH BREVE AND HOOK ABOVEb CAPITAL LETTER A WITH BREVE AND TILDE",
      "b SMALL LETTER A WITH BREVE AND TILDEb CAPITAL LETTER A WITH BREVE AND DOT BELOW",
      "b SMALL LETTER A WITH BREVE AND DOT BELOWb CAPITAL LETTER E WITH DOT BELOW",
      "b SMALL LETTER E WITH DOT BELOWb CAPITAL LETTER E WITH HOOK ABOVE",
      "b SMALL LETTER E WITH HOOK ABOVEb CAPITAL LETTER E WITH TILDEb SMALL LETTER E WITH TILDE",
      "b CAPITAL LETTER E WITH CIRCUMFLEX AND ACUTEb SMALL LETTER E WITH CIRCUMFLEX AND ACUTE",
      "b CAPITAL LETTER E WITH CIRCUMFLEX AND GRAVEb SMALL LETTER E WITH CIRCUMFLEX AND GRAVE",
      "b CAPITAL LETTER E WITH CIRCUMFLEX AND HOOK ABOVE",
      "b SMALL LETTER E WITH CIRCUMFLEX AND HOOK ABOVE",
      "b CAPITAL LETTER E WITH CIRCUMFLEX AND TILDEb SMALL LETTER E WITH CIRCUMFLEX AND TILDE",
      "b CAPITAL LETTER E WITH CIRCUMFLEX AND DOT BELOW",
      "b SMALL LETTER E WITH CIRCUMFLEX AND DOT BELOWb CAPITAL LETTER I WITH HOOK ABOVE",
      "b SMALL LETTER I WITH HOOK ABOVEb CAPITAL LETTER I WITH DOT BELOW",
      "b SMALL LETTER I WITH DOT BELOWb CAPITAL LETTER O WITH DOT BELOW",
      "b SMALL LETTER O WITH DOT BELOWb CAPITAL LETTER O WITH HOOK ABOVE",
      "b SMALL LETTER O WITH HOOK ABOVEb CAPITAL LETTER O WITH CIRCUMFLEX AND ACUTE",
      "b SMALL LETTER O WITH CIRCUMFLEX AND ACUTEb CAPITAL LETTER O WITH CIRCUMFLEX AND GRAVE",
      "b SMALL LETTER O WITH CIRCUMFLEX AND GRAVE",
      "b CAPITAL LETTER O WITH CIRCUMFLEX AND HOOK ABOVE",
      "b SMALL LETTER O WITH CIRCUMFLEX AND HOOK ABOVE",
      "b CAPITAL LETTER O WITH CIRCUMFLEX AND TILDEb SMALL LETTER O WITH CIRCUMFLEX AND TILDE",
      "b CAPITAL LETTER O WITH CIRCUMFLEX AND DOT BELOW",
      "b SMALL LETTER O WITH CIRCUMFLEX AND DOT BELOWb CAPITAL LETTER O WITH HORN AND ACUTE",
      "b SMALL LETTER O WITH HORN AND ACUTEb CAPITAL LETTER O WITH HORN AND GRAVE",
      "b SMALL LETTER O WITH HORN AND GRAVEb CAPITAL LETTER O WITH HORN AND HOOK ABOVE",
      "b SMALL LETTER O WITH HORN AND HOOK ABOVEb CAPITAL LETTER O WITH HORN AND TILDE",
      "b SMALL LETTER O WITH HORN AND TILDEb CAPITAL LETTER O WITH HORN AND DOT BELOW",
      "b SMALL LETTER O WITH HORN AND DOT BELOWb CAPITAL LETTER U WITH DOT BELOW",
      "b SMALL LETTER U WITH DOT BELOWb CAPITAL LETTER U WITH HOOK ABOVE",
      "b SMALL LETTER U WITH HOOK ABOVEb CAPITAL LETTER U WITH HORN AND ACUTE",
      "b SMALL LETTER U WITH HORN AND ACUTEb CAPITAL LETTER U WITH HORN AND GRAVE",
      "b SMALL LETTER U WITH HORN AND GRAVEb CAPITAL LETTER U WITH HORN AND HOOK ABOVE",
      "b SMALL LETTER U WITH HORN AND HOOK ABOVEb CAPITAL LETTER U WITH HORN AND TILDE",
      "b SMALL LETTER U WITH HORN AND TILDEb CAPITAL LETTER U WITH HORN AND DOT BELOW",
      "b SMALL LETTER U WITH HORN AND DOT BELOWb CAPITAL LETTER Y WITH GRAVE",
      "b SMALL LETTER Y WITH GRAVEb CAPITAL LETTER Y WITH DOT BELOW",
      "b SMALL LETTER Y WITH DOT BELOWb CAPITAL LETTER Y WITH HOOK ABOVE",
      "b SMALL LETTER Y WITH HOOK ABOVEb CAPITAL LETTER Y WITH TILDEb SMALL LETTER Y WITH TILDE",
      "b CAPITAL LETTER MIDDLE-WELSH LLb SMALL LETTER MIDDLE-WELSH LL",
      "b CAPITAL LETTER MIDDLE-WELSH Vb SMALL LETTER MIDDLE-WELSH Vb CAPITAL LETTER Y WITH LOOP",
      "b SMALL LETTER Y WITH LOOPaGREEK SMALL LETTER ALPHA WITH PSILIf DASIAf PSILI AND VARIA",
      "f DASIA AND VARIAf PSILI AND OXIAf DASIA AND OXIAf PSILI AND PERISPOMENI",
      "f DASIA AND PERISPOMENIb CAPITAL LETTER ALPHA WITH PSILIf DASIAf PSILI AND VARIA",
      "f DASIA AND VARIAf PSILI AND OXIAf DASIA AND OXIAf PSILI AND PERISPOMENI",
      "f DASIA AND PERISPOMENIb SMALL LETTER EPSILON WITH PSILIf DASIAf PSILI AND VARIA",
      "f DASIA AND VARIAf PSILI AND OXIAf DASIA AND OXIA"]),
   (0x1F18, ["aGREEK CAPITAL LETTER EPSILON WITH PSILIf DASIAf PSILI AND VARIAf DASIA AND VARIA",
      "f PSILI AND OXIAf DASIA AND OXIA"]),
   (0x1F20, ["aGREEK SMALL LETTER ETA WITH PSILIf DASIAf PSILI AND VARIAf DASIA AND VARIA",
      "f PSILI AND OXIAf DASIA AND OXIAf PSILI AND PERISPOMENIf DASIA AND PERISPOMENI",
      "b CAPITAL LETTER ETA WITH PSILIf DASIAf PSILI AND VARIAf DASIA AND VARIAf PSILI AND OXIA",
      "f DASIA AND OXIAf PSILI AND PERISPOMENIf DASIA AND PERISPOMENI",
      "b SMALL LETTER IOTA WITH PSILIf DASIAf PSILI AND VARIAf DASIA AND VARIAf PSILI AND OXIA",
      "f DASIA AND OXIAf PSILI AND PERISPOMENIf DASIA AND PERISPOMENI",
      "b CAPITAL LETTER IOTA WITH PSILIf DASIAf PSILI AND VARIAf DASIA AND VARIA",
      "f PSILI AND OXIAf DASIA AND OXIAf PSILI AND PERISPOMENIf DASIA AND PERISPOMENI",
      "b SMALL LETTER OMICRON WITH PSILIf DASIAf PSILI AND VARIAf DASIA AND VARIA",
      "f PSILI AND OXIAf DASIA AND OXIA"]),
   (0x1F48, ["aGREEK CAPITAL LETTER OMICRON WITH PSILIf DASIAf PSILI AND VARIAf DASIA AND VARIA",
      "f PSILI AND OXIAf DASIA AND OXIA"]),
   (0x1F50, ["aGREEK SMALL LETTER UPSILON WITH PSILIf DASIAf PSILI AND VARIAf DASIA AND VARIA",
      "f PSILI AND OXIAf DASIA AND OXIAf PSILI AND PERISPOMENIf DASIA AND PERISPOMENI"]),
   (0x1F59, ["aGREEK CAPITAL LETTER UPSILON WITH DASIA"]),
   (0x1F5B, ["aGREEK CAPITAL LETTER UPSILON WITH DASIA AND VARIA"]),
   (0x1F5D, ["aGREEK CAPITAL LETTER UPSILON WITH DASIA AND OXIA"]),
   (0x1F5F, ["aGREEK CAPITAL LETTER UPSILON WITH DASIA AND PERISPOMENI",
      "b SMALL LETTER OMEGA WITH PSILIf DASIAf PSILI AND VARIAf DASIA AND VARIAf PSILI AND OXIA",
      "f DASIA AND OXIAf PSILI AND PERISPOMENIf DASIA AND PERISPOMENI",
      "b CAPITAL LETTER OMEGA WITH PSILIf DASIAf PSILI AND VARIAf DASIA AND VARIA",
      "f PSILI AND OXIAf DASIA AND OXIAf PSILI AND PERISPOMENIf DASIA AND PERISPOMENI",
      "b SMALL LETTER ALPHA WITH VARIAf OXIAd EPSILON WITH VARIAf OXIAd ETA WITH VARIAf OXIA",
      "d IOTA WITH VARIAf OXIAd OMICRON WITH VARIAf OXIAd UPSILON WITH VARIAf OXIA",
      "d OMEGA WITH VARIAf OXIA"]),
   (0x1F80, ["aGREEK SMALL LETTER ALPHA WITH PSILI AND YPOGEGRAMMENIf DASIA AND YPOGEGRAMMENI",
      "f PSILI AND VARIA AND YPOGEGRAMMENIf DASIA AND VARIA AND YPOGEGRAMMENI",
      "f PSILI AND OXIA AND YPOGEGRAMMENIf DASIA AND OXIA AND YPOGEGRAMMENI",
      "f PSILI AND PERISPOMENI AND YPOGEGRAMMENIf DASIA AND PERISPOMENI AND YPOGEGRAMMENI",
      "b CAPITAL LETTER ALPHA WITH PSILI AND PROSGEGRAMMENIf DASIA AND PROSGEGRAMMENI",
      "f PSILI AND VARIA AND PROSGEGRAMMENIf DASIA AND VARIA AND PROSGEGRAMMENI",
      "f PSILI AND OXIA AND PROSGEGRAMMENIf DASIA AND OXIA AND PROSGEGRAMMENI",
      "f PSILI AND PERISPOMENI AND PROSGEGRAMMENIf DASIA AND PERISPOMENI AND PROSGEGRAMMENI",
      "b SMALL LETTER ETA WITH PSILI AND YPOGEGRAMMENIf DASIA AND YPOGEGRAMMENI",
      "f PSILI AND VARIA AND YPOGEGRAMMENIf DASIA AND VARIA AND YPOGEGRAMMENI",
      "f PSILI AND OXIA AND YPOGEGRAMMENIf DASIA AND OXIA AND YPOGEGRAMMENI",
      "f PSILI AND PERISPOMENI AND YPOGEGRAMMENIf DASIA AND PERISPOMENI AND YPOGEGRAMMENI",
      "b CAPITAL LETTER ETA WITH PSILI AND PROSGEGRAMMENIf DASIA AND PROSGEGRAMMENI",
      "f PSILI AND VARIA AND PROSGEGRAMMENIf DASIA AND VARIA AND PROSGEGRAMMENI",
      "f PSILI AND OXIA AND PROSGEGRAMMENIf DASIA AND OXIA AND PROSGEGRAMMENI",
      "f PSILI AND PERISPOMENI AND PROSGEGRAMMENIf DASIA AND PERISPOMENI AND PROSGEGRAMMENI",
      "b SMALL LETTER OMEGA WITH PSILI AND YPOGEGRAMMENIf DASIA AND YPOGEGRAMMENI",
      "f PSILI AND VARIA AND YPOGEGRAMMENIf DASIA AND VARIA AND YPOGEGRAMMENI",
      "f PSILI AND OXIA AND YPOGEGRAMMENIf DASIA AND OXIA AND YPOGEGRAMMENI",
      "f PSILI AND PERISPOMENI AND YPOGEGRAMMENIf DASIA AND PERISPOMENI AND YPOGEGRAMMENI",
      "b CAPITAL LETTER OMEGA WITH PSILI AND PROSGEGRAMMENIf DASIA AND PROSGEGRAMMENI",
      "f PSILI AND VARIA AND PROSGEGRAMMENIf DASIA AND VARIA AND PROSGEGRAMMENI",
      "f PSILI AND OXIA AND PROSGEGRAMMENIf DASIA AND OXIA AND PROSGEGRAMMENI",
      "f PSILI AND PERISPOMENI AND PROSGEGRAMMENIf DASIA AND PERISPOMENI AND PROSGEGRAMMENI",
      "b SMALL LETTER ALPHA WITH VRACHYf MACRONf VARIA AND YPOGEGRAMMENIf YPOGEGRAMMENI",
      "f OXIA AND YPOGEGRAMMENI"]),
   (0x1FB6, ["aGREEK SMALL LETTER ALPHA WITH PERISPOMENIg AND YPOGEGRAMMENI",
      "b CAPITAL LETTER ALPHA WITH VRACHYf MACRONf VARIAf OXIAf PROSGEGRAMMENIb KORONIS",
      "b PROSGEGRAMMENIb PSILIb PERISPOMENIb DIALYTIKA AND PERISPOMENI",
      "b SMALL LETTER ETA WITH VARIA AND YPOGEGRAMMENIf YPOGEGRAMMENIf OXIA AND YPOGEGRAMMENI"]),
   (0x1FC6, ["aGREEK SMALL LETTER ETA WITH PERISPOMENIg AND YPOGEGRAMMENI",
      "b CAPITAL LETTER EPSILON WITH VARIAf OXIAd ETA WITH VARIAf OXIAf PROSGEGRAMMENI",
      "b PSILI AND VARIAd OXIAd PERISPOMENIb SMALL LETTER IOTA WITH VRACHYf MACRON",
      "f DIALYTIKA AND VARIAh OXIA"]),
   (0x1FD6, ["aGREEK SMALL LETTER IOTA WITH PERISPOMENIf DIALYTIKA AND PERISPOMENI",
      "b CAPITAL LETTER IOTA WITH VRACHYf MACRONf VARIAf OXIA"]),
   (0x1FDD, ["aGREEK DASIA AND VARIAd OXIAd PERISPOMENIb SMALL LETTER UPSILON WITH VRACHY",
      "f MACRONf DIALYTIKA AND VARIAh OXIAd RHO WITH PSILIf DASIAd UPSILON WITH PERISPOMENI",
      "f DIALYTIKA AND PERISPOMENIb CAPITAL LETTER UPSILON WITH VRACHYf MACRONf VARIAf OXIA",
      "d RHO WITH DASIAb DIALYTIKA AND VARIAd OXIAb VARIA"]),
   (0x1FF2, ["aGREEK SMALL LETTER OMEGA WITH VARIA AND YPOGEGRAMMENIf YPOGEGRAMMENI",
      "f OXIA AND YPOGEGRAMMENI"]),
   (0x1FF6, ["aGREEK SMALL LETTER OMEGA WITH PERISPOMENIg AND YPOGEGRAMMENI",
      "b CAPITAL LETTER OMICRON WITH VARIAf OXIAd OMEGA WITH VARIAf OXIAf PROSGEGRAMMENIb OXIA",
      "b DASIA"])]

end PromptTree.Text
