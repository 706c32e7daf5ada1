/-!
# Names of signs

The names of Unicode 14 for code points from 0x2000 to 0x2FFF:
punctuation, symbols, arrows and further letters.

## Main Definitions

* `signNames` — the names of the characters of each run of code points.

## Design Notes

A name begins with a small letter that tells how many parts it has in common with the name
before it in the run, from `a` for none on; the other parts follow.  A part begins at a space
or at a hyphen.
-/

namespace PromptTree.Text

/-- The names of runs of code points, each run with its first code point. -/
def signNames : List (Nat × List String) :=
  [(0x2000, ["aEN QUADaEM QUADaEN SPACEaEM SPACEaTHREE-PER-EM SPACEaFOUR-PER-EM SPACE",
      "aSIX-PER-EM SPACEaFIGURE SPACEaPUNCTUATION SPACEaTHIN SPACEaHAIR SPACEaZERO WIDTH SPACE",
      "c NON-JOINERc JOINERaLEFT-TO-RIGHT MARKaRIGHT-TO-LEFT MARKaHYPHENaNON-BREAKING HYPHEN",
      "aFIGURE DASHaEN DASHaEM DASHaHORIZONTAL BARaDOUBLE VERTICAL LINEb LOW LINE",
      "aLEFT SINGLE QUOTATION MARKaRIGHT SINGLE QUOTATION MARKaSINGLE LOW-9 QUOTATION MARK",
      "b HIGH-REVERSED-9 QUOTATION MARKaLEFT DOUBLE QUOTATION MARKaRIGHT DOUBLE QUOTATION MARK",
      "aDOUBLE LOW-9 QUOTATION MARKb HIGH-REVERSED-9 QUOTATION MARKaDAGGERaDOUBLE DAGGERaBULLET",
      "aTRIANGULAR BULLETaONE DOT LEADERaTWO DOT LEADERaHORIZONTAL ELLIPSISaHYPHENATION POINT",
      "aLINE SEPARATORaPARAGRAPH SEPARATORaLEFT-TO-RIGHT EMBEDDINGaRIGHT-TO-LEFT EMBEDDING",
      "aPOP DIRECTIONAL FORMATTINGaLEFT-TO-RIGHT OVERRIDEaRIGHT-TO-LEFT OVERRIDE",
      "aNARROW NO-BREAK SPACEaPER MILLE SIGNb TEN THOUSAND SIGNaPRIMEaDOUBLE PRIMEaTRIPLE PRIME",
      "aREVERSED PRIMEb DOUBLE PRIMEb TRIPLE PRIMEaCARET",
      "aSINGLE LEFT-POINTING ANGLE QUOTATION MARKb RIGHT-POINTING ANGLE QUOTATION MARK",
      "aREFERENCE MARKaDOUBLE EXCLAMATION MARKaINTERROBANGaOVERLINEaUNDERTIEaCHARACTER TIE",
      "aCARET INSERTION POINTaASTERISMaHYPHEN BULLETaFRACTION SLASH",
      "aLEFT SQUARE BRACKET WITH QUILLaRIGHT SQUARE BRACKET WITH QUILLaDOUBLE QUESTION MARK",
      "aQUESTION EXCLAMATION MARKaEXCLAMATION QUESTION MARKaTIRONIAN SIGN ET",
      "aREVERSED PILCROW SIGNaBLACK LEFTWARDS BULLETb RIGHTWARDS BULLETaLOW ASTERISK",
      "aREVERSED SEMICOLONaCLOSE UPaTWO ASTERISKS ALIGNED VERTICALLYaCOMMERCIAL MINUS SIGN",
      "aSWUNG DASHaINVERTED UNDERTIEaFLOWER PUNCTUATION MARKaTHREE DOT PUNCTUATION",
      "aQUADRUPLE PRIMEaFOUR DOT PUNCTUATIONaFIVE DOT PUNCTUATIONaTWO DOT PUNCTUATION",
      "aFOUR DOT MARKaDOTTED CROSSaTRICOLONaVERTICAL FOUR DOTSaMEDIUM MATHEMATICAL SPACE",
      "aWORD JOINERaFUNCTION APPLICATIONaINVISIBLE TIMESb SEPARATORb PLUS"]),
   (0x2066, ["aLEFT-TO-RIGHT ISOLATEaRIGHT-TO-LEFT ISOLATEaFIRST STRONG ISOLATE",
      "aPOP DIRECTIONAL ISOLATEaINHIBIT SYMMETRIC SWAPPINGaACTIVATE SYMMETRIC SWAPPING",
      "aINHIBIT ARABIC FORM SHAPINGaACTIVATE ARABIC FORM SHAPINGaNATIONAL DIGIT SHAPES",
      "aNOMINAL DIGIT SHAPESaSUPERSCRIPT ZEROb LATIN SMALL LETTER I"]),
   (0x2074, ["aSUPERSCRIPT FOURb FIVEb SIXb SEVENb EIGHTb NINEb PLUS SIGNb MINUSb EQUALS SIGN",
      "b LEFT PARENTHESISb RIGHT PARENTHESISb LATIN SMALL LETTER NaSUBSCRIPT ZEROb ONEb TWO",
      "b THREEb FOURb FIVEb SIXb SEVENb EIGHTb NINEb PLUS SIGNb MINUSb EQUALS SIGN",
      "b LEFT PARENTHESISb RIGHT PARENTHESIS"]),
   (0x2090, ["aLATIN SUBSCRIPT SMALL LETTER Ae Ee Oe Xe SCHWAe He Ke Le Me Ne Pe Se T"]),
   (0x20A0, ["aEURO-CURRENCY SIGNaCOLON SIGNaCRUZEIRO SIGNaFRENCH FRANC SIGNaLIRA SIGN",
      "aMILL SIGNaNAIRA SIGNaPESETA SIGNaRUPEE SIGNaWON SIGNaNEW SHEQEL SIGNaDONG SIGN",
      "aEURO SIGNaKIP SIGNaTUGRIK SIGNaDRACHMA SIGNaGERMAN PENNY SIGNaPESO SIGNaGUARANI SIGN",
      "aAUSTRAL SIGNaHRYVNIA SIGNaCEDI SIGNaLIVRE TOURNOIS SIGNaSPESMILO SIGNaTENGE SIGN",
      "aINDIAN RUPEE SIGNaTURKISH LIRA SIGNaNORDIC MARK SIGNaMANAT SIGNaRUBLE SIGNaLARI SIGN",
      "aBITCOIN SIGNaSOM SIGN"]),
   (0x20D0, ["aCOMBINING LEFT HARPOON ABOVEb RIGHT HARPOON ABOVEb LONG VERTICAL LINE OVERLAY",
      "b SHORT VERTICAL LINE OVERLAYb ANTICLOCKWISE ARROW ABOVEb CLOCKWISE ARROW ABOVE",
      "b LEFT ARROW ABOVEb RIGHT ARROW ABOVEb RING OVERLAYb CLOCKWISE RING OVERLAY",
      "b ANTICLOCKWISE RING OVERLAYb THREE DOTS ABOVEb FOUR DOTS ABOVEb ENCLOSING CIRCLE",
      "c SQUAREc DIAMONDc CIRCLE BACKSLASHb LEFT RIGHT ARROW ABOVEb ENCLOSING SCREENc KEYCAP",
      "c UPWARD POINTING TRIANGLEb REVERSE SOLIDUS OVERLAYb DOUBLE VERTICAL STROKE OVERLAY",
      "b ANNUITY SYMBOLb TRIPLE UNDERDOTb WIDE BRIDGE ABOVEb LEFTWARDS ARROW OVERLAY",
      "b LONG DOUBLE SOLIDUS OVERLAYb RIGHTWARDS HARPOON WITH BARB DOWNWARDS",
      "b LEFTWARDS HARPOON WITH BARB DOWNWARDSb LEFT ARROW BELOWb RIGHT ARROW BELOW",
      "b ASTERISK ABOVE"]),
   (0x2100, ["aACCOUNT OFaADDRESSED TO THE SUBJECTaDOUBLE-STRUCK CAPITAL CaDEGREE CELSIUS",
      "aCENTRE LINE SYMBOLaCARE OFaCADA UNAaEULER CONSTANTaSCRUPLEaDEGREE FAHRENHEIT",
      "aSCRIPT SMALL Gb CAPITAL HaBLACK-LETTER CAPITAL HaDOUBLE-STRUCK CAPITAL H",
      "aPLANCK CONSTANTc OVER TWO PIaSCRIPT CAPITAL IaBLACK-LETTER CAPITAL IaSCRIPT CAPITAL L",
      "b SMALL LaL B BAR SYMBOLaDOUBLE-STRUCK CAPITAL NaNUMERO SIGNaSOUND RECORDING COPYRIGHT",
      "aSCRIPT CAPITAL PaDOUBLE-STRUCK CAPITAL Pd QaSCRIPT CAPITAL RaBLACK-LETTER CAPITAL R",
      "aDOUBLE-STRUCK CAPITAL RaPRESCRIPTION TAKEaRESPONSEaSERVICE MARKaTELEPHONE SIGN",
      "aTRADE MARK SIGNaVERSICLEaDOUBLE-STRUCK CAPITAL ZaOUNCE SIGNaOHM SIGNaINVERTED OHM SIGN",
      "aBLACK-LETTER CAPITAL ZaTURNED GREEK SMALL LETTER IOTAaKELVIN SIGNaANGSTROM SIGN",
      "aSCRIPT CAPITAL BaBLACK-LETTER CAPITAL CaESTIMATED SYMBOLaSCRIPT SMALL Eb CAPITAL Ec F",
      "aTURNED CAPITAL FaSCRIPT CAPITAL Mb SMALL OaALEF SYMBOLaBET SYMBOLaGIMEL SYMBOL",
      "aDALET SYMBOLaINFORMATION SOURCEaROTATED CAPITAL QaFACSIMILE SIGNaDOUBLE-STRUCK SMALL PI",
      "d GAMMAc CAPITAL GAMMAd PIc N-ARY SUMMATIONaTURNED SANS-SERIF CAPITAL Ge L",
      "aREVERSED SANS-SERIF CAPITAL LaTURNED SANS-SERIF CAPITAL Y",
      "aDOUBLE-STRUCK ITALIC CAPITAL Dd SMALL De Ee Ie JaPROPERTY LINEaTURNED AMPERSAND",
      "aPER SIGNaAKTIESELSKABaTURNED SMALL FaSYMBOL FOR SAMARITAN SOURCE",
      "aVULGAR FRACTION ONE SEVENTHd NINTHd TENTHd THIRDc TWO THIRDSc ONE FIFTHc TWO FIFTHS",
      "c THREE FIFTHSc FOUR FIFTHSc ONE SIXTHc FIVE SIXTHSc ONE EIGHTHc THREE EIGHTHS",
      "c FIVE EIGHTHSc SEVEN EIGHTHSaFRACTION NUMERATOR ONEaROMAN NUMERAL ONEc TWOc THREEc FOUR",
      "c FIVEc SIXc SEVENc EIGHTc NINEc TENc ELEVENc TWELVEc FIFTYc ONE HUNDREDc FIVE HUNDRED",
      "c ONE THOUSANDaSMALL ROMAN NUMERAL ONEd TWOd THREEd FOURd FIVEd SIXd SEVENd EIGHTd NINE",
      "d TENd ELEVENd TWELVEd FIFTYd ONE HUNDREDd FIVE HUNDREDd ONE THOUSAND",
      "aROMAN NUMERAL ONE THOUSAND C Dc FIVE THOUSANDc TEN THOUSANDc REVERSED ONE HUNDRED",
      "aLATIN SMALL LETTER REVERSED CaROMAN NUMERAL SIX LATE FORMc FIFTY EARLY FORMd THOUSAND",
      "c ONE HUNDRED THOUSANDaVULGAR FRACTION ZERO THIRDSaTURNED DIGIT TWOc THREE"]),
   (0x2190, ["aLEFTWARDS ARROWaUPWARDS ARROWaRIGHTWARDS ARROWaDOWNWARDS ARROWaLEFT RIGHT ARROW",
      "aUP DOWN ARROWaNORTH WEST ARROWb EAST ARROWaSOUTH EAST ARROWb WEST ARROW",
      "aLEFTWARDS ARROW WITH STROKEaRIGHTWARDS ARROW WITH STROKEaLEFTWARDS WAVE ARROW",
      "aRIGHTWARDS WAVE ARROWaLEFTWARDS TWO HEADED ARROWaUPWARDS TWO HEADED ARROW",
      "aRIGHTWARDS TWO HEADED ARROWaDOWNWARDS TWO HEADED ARROWaLEFTWARDS ARROW WITH TAIL",
      "aRIGHTWARDS ARROW WITH TAILaLEFTWARDS ARROW FROM BARaUPWARDS ARROW FROM BAR",
      "aRIGHTWARDS ARROW FROM BARaDOWNWARDS ARROW FROM BARaUP DOWN ARROW WITH BASE",
      "aLEFTWARDS ARROW WITH HOOKaRIGHTWARDS ARROW WITH HOOKaLEFTWARDS ARROW WITH LOOP",
      "aRIGHTWARDS ARROW WITH LOOPaLEFT RIGHT WAVE ARROWc ARROW WITH STROKE",
      "aDOWNWARDS ZIGZAG ARROWaUPWARDS ARROW WITH TIP LEFTWARDSe RIGHTWARDS",
      "aDOWNWARDS ARROW WITH TIP LEFTWARDSe RIGHTWARDSaRIGHTWARDS ARROW WITH CORNER DOWNWARDS",
      "aDOWNWARDS ARROW WITH CORNER LEFTWARDSaANTICLOCKWISE TOP SEMICIRCLE ARROW",
      "aCLOCKWISE TOP SEMICIRCLE ARROWaNORTH WEST ARROW TO LONG BAR",
      "aLEFTWARDS ARROW TO BAR OVER RIGHTWARDS ARROW TO BARaANTICLOCKWISE OPEN CIRCLE ARROW",
      "aCLOCKWISE OPEN CIRCLE ARROWaLEFTWARDS HARPOON WITH BARB UPWARDSe DOWNWARDS",
      "aUPWARDS HARPOON WITH BARB RIGHTWARDSe LEFTWARDSaRIGHTWARDS HARPOON WITH BARB UPWARDS",
      "e DOWNWARDSaDOWNWARDS HARPOON WITH BARB RIGHTWARDSe LEFTWARDS",
      "aRIGHTWARDS ARROW OVER LEFTWARDS ARROWaUPWARDS ARROW LEFTWARDS OF DOWNWARDS ARROW",
      "aLEFTWARDS ARROW OVER RIGHTWARDS ARROWb PAIRED ARROWSaUPWARDS PAIRED ARROWS",
      "aRIGHTWARDS PAIRED ARROWSaDOWNWARDS PAIRED ARROWS",
      "aLEFTWARDS HARPOON OVER RIGHTWARDS HARPOONaRIGHTWARDS HARPOON OVER LEFTWARDS HARPOON",
      "aLEFTWARDS DOUBLE ARROW WITH STROKEaLEFT RIGHT DOUBLE ARROW WITH STROKE",
      "aRIGHTWARDS DOUBLE ARROW WITH STROKEaLEFTWARDS DOUBLE ARROWaUPWARDS DOUBLE ARROW",
      "aRIGHTWARDS DOUBLE ARROWaDOWNWARDS DOUBLE ARROWaLEFT RIGHT DOUBLE ARROW",
      "aUP DOWN DOUBLE ARROWaNORTH WEST DOUBLE ARROWb EAST DOUBLE ARROWaSOUTH EAST DOUBLE ARROW",
      "b WEST DOUBLE ARROWaLEFTWARDS TRIPLE ARROWaRIGHTWARDS TRIPLE ARROW",
      "aLEFTWARDS SQUIGGLE ARROWaRIGHTWARDS SQUIGGLE ARROWaUPWARDS ARROW WITH DOUBLE STROKE",
      "aDOWNWARDS ARROW WITH DOUBLE STROKEaLEFTWARDS DASHED ARROWaUPWARDS DASHED ARROW",
      "aRIGHTWARDS DASHED ARROWaDOWNWARDS DASHED ARROWaLEFTWARDS ARROW TO BAR",
      "aRIGHTWARDS ARROW TO BARaLEFTWARDS WHITE ARROWaUPWARDS WHITE ARROW",
      "aRIGHTWARDS WHITE ARROWaDOWNWARDS WHITE ARROWaUPWARDS WHITE ARROW FROM BARd ON PEDESTAL",
      "f WITH HORIZONTAL BARg VERTICAL BARc DOUBLE ARROWe ON PEDESTAL",
      "aRIGHTWARDS WHITE ARROW FROM WALLaNORTH WEST ARROW TO CORNERaSOUTH EAST ARROW TO CORNER",
      "aUP DOWN WHITE ARROWaRIGHT ARROW WITH SMALL CIRCLE",
      "aDOWNWARDS ARROW LEFTWARDS OF UPWARDS ARROWaTHREE RIGHTWARDS ARROWS",
      "aLEFTWARDS ARROW WITH VERTICAL STROKEaRIGHTWARDS ARROW WITH VERTICAL STROKE",
      "aLEFT RIGHT ARROW WITH VERTICAL STROKEaLEFTWARDS ARROW WITH DOUBLE VERTICAL STROKE",
      "aRIGHTWARDS ARROW WITH DOUBLE VERTICAL STROKE",
      "aLEFT RIGHT ARROW WITH DOUBLE VERTICAL STROKEaLEFTWARDS OPEN-HEADED ARROW",
      "aRIGHTWARDS OPEN-HEADED ARROWaLEFT RIGHT OPEN-HEADED ARROWaFOR ALLaCOMPLEMENT",
      "aPARTIAL DIFFERENTIALaTHERE EXISTSb DOES NOT EXISTaEMPTY SETaINCREMENTaNABLAaELEMENT OF",
      "aNOT AN ELEMENT OFaSMALL ELEMENT OFaCONTAINS AS MEMBERaDOES NOT CONTAIN AS MEMBER",
      "aSMALL CONTAINS AS MEMBERaEND OF PROOFaN-ARY PRODUCTc COPRODUCTc SUMMATIONaMINUS SIGN",
      "b-OR-PLUS SIGNaDOT PLUSaDIVISION SLASHaSET MINUSaASTERISK OPERATORaRING OPERATOR",
      "aBULLET OPERATORaSQUARE ROOTaCUBE ROOTaFOURTH ROOTaPROPORTIONAL TOaINFINITYaRIGHT ANGLE",
      "aANGLEaMEASURED ANGLEaSPHERICAL ANGLEaDIVIDESaDOES NOT DIVIDEaPARALLEL TO",
      "aNOT PARALLEL TOaLOGICAL ANDb ORaINTERSECTIONaUNIONaINTEGRALaDOUBLE INTEGRAL",
      "aTRIPLE INTEGRALaCONTOUR INTEGRALaSURFACE INTEGRALaVOLUME INTEGRALaCLOCKWISE INTEGRAL",
      "b CONTOUR INTEGRALaANTICLOCKWISE CONTOUR INTEGRALaTHEREFOREaBECAUSEaRATIOaPROPORTION",
      "aDOT MINUSaEXCESSaGEOMETRIC PROPORTIONaHOMOTHETICaTILDE OPERATORaREVERSED TILDE",
      "aINVERTED LAZY SaSINE WAVEaWREATH PRODUCTaNOT TILDEaMINUS TILDEaASYMPTOTICALLY EQUAL TO",
      "aNOT ASYMPTOTICALLY EQUAL TOaAPPROXIMATELY EQUAL TOb BUT NOT ACTUALLY EQUAL TO",
      "aNEITHER APPROXIMATELY NOR ACTUALLY EQUAL TOaALMOST EQUAL TOaNOT ALMOST EQUAL TO",
      "aALMOST EQUAL OR EQUAL TOaTRIPLE TILDEaALL EQUAL TOaEQUIVALENT TO",
      "aGEOMETRICALLY EQUIVALENT TOaDIFFERENCE BETWEENaAPPROACHES THE LIMIT",
      "aGEOMETRICALLY EQUAL TOaAPPROXIMATELY EQUAL TO OR THE IMAGE OF",
      "aIMAGE OF OR APPROXIMATELY EQUAL TOaCOLON EQUALSaEQUALS COLONaRING IN EQUAL TOb EQUAL TO",
      "aCORRESPONDS TOaESTIMATESaEQUIANGULAR TOaSTAR EQUALSaDELTA EQUAL TO",
      "aEQUAL TO BY DEFINITIONaMEASURED BYaQUESTIONED EQUAL TOaNOT EQUAL TOaIDENTICAL TO",
      "aNOT IDENTICAL TOaSTRICTLY EQUIVALENT TOaLESS-THAN OR EQUAL TOaGREATER-THAN OR EQUAL TO",
      "aLESS-THAN OVER EQUAL TOaGREATER-THAN OVER EQUAL TOaLESS-THAN BUT NOT EQUAL TO",
      "aGREATER-THAN BUT NOT EQUAL TOaMUCH LESS-THANb GREATER-THANaBETWEENaNOT EQUIVALENT TO",
      "b LESS-THANb GREATER-THANaNEITHER LESS-THAN NOR EQUAL TOb GREATER-THAN NOR EQUAL TO",
      "aLESS-THAN OR EQUIVALENT TOaGREATER-THAN OR EQUIVALENT TO",
      "aNEITHER LESS-THAN NOR EQUIVALENT TOb GREATER-THAN NOR EQUIVALENT TO",
      "aLESS-THAN OR GREATER-THANaGREATER-THAN OR LESS-THANaNEITHER LESS-THAN NOR GREATER-THAN",
      "b GREATER-THAN NOR LESS-THANaPRECEDESaSUCCEEDSaPRECEDES OR EQUAL TOaSUCCEEDS OR EQUAL TO",
      "aPRECEDES OR EQUIVALENT TOaSUCCEEDS OR EQUIVALENT TOaDOES NOT PRECEDEc SUCCEEDaSUBSET OF",
      "aSUPERSET OFaNOT A SUBSET OFc SUPERSET OFaSUBSET OF OR EQUAL TOaSUPERSET OF OR EQUAL TO",
      "aNEITHER A SUBSET OF NOR EQUAL TOc SUPERSET OF NOR EQUAL TOaSUBSET OF WITH NOT EQUAL TO",
      "aSUPERSET OF WITH NOT EQUAL TOaMULTISETb MULTIPLICATIONb UNIONaSQUARE IMAGE OF",
      "b ORIGINAL OFb IMAGE OF OR EQUAL TOb ORIGINAL OF OR EQUAL TOb CAPb CUPaCIRCLED PLUS",
      "b MINUSb TIMESb DIVISION SLASHb DOT OPERATORb RING OPERATORb ASTERISK OPERATORb EQUALS",
      "b DASHaSQUARED PLUSb MINUSb TIMESb DOT OPERATORaRIGHT TACKaLEFT TACKaDOWN TACKaUP TACK",
      "aASSERTIONaMODELSaTRUEaFORCESaTRIPLE VERTICAL BAR RIGHT TURNSTILE",
      "aDOUBLE VERTICAL BAR DOUBLE RIGHT TURNSTILEaDOES NOT PROVEaNOT TRUEaDOES NOT FORCE",
      "aNEGATED DOUBLE VERTICAL BAR DOUBLE RIGHT TURNSTILEaPRECEDES UNDER RELATION",
      "aSUCCEEDS UNDER RELATIONaNORMAL SUBGROUP OFaCONTAINS AS NORMAL SUBGROUP",
      "aNORMAL SUBGROUP OF OR EQUAL TOaCONTAINS AS NORMAL SUBGROUP OR EQUAL TOaORIGINAL OF",
      "aIMAGE OFaMULTIMAPaHERMITIAN CONJUGATE MATRIXaINTERCALATEaXORaNANDaNOR",
      "aRIGHT ANGLE WITH ARCb TRIANGLEaN-ARY LOGICAL ANDd ORc INTERSECTIONc UNION",
      "aDIAMOND OPERATORaDOT OPERATORaSTAR OPERATORaDIVISION TIMESaBOWTIE",
      "aLEFT NORMAL FACTOR SEMIDIRECT PRODUCTaRIGHT NORMAL FACTOR SEMIDIRECT PRODUCT",
      "aLEFT SEMIDIRECT PRODUCTaRIGHT SEMIDIRECT PRODUCTaREVERSED TILDE EQUALSaCURLY LOGICAL OR",
      "c ANDaDOUBLE SUBSETb SUPERSETb INTERSECTIONb UNIONaPITCHFORKaEQUAL AND PARALLEL TO",
      "aLESS-THAN WITH DOTaGREATER-THAN WITH DOTaVERY MUCH LESS-THANc GREATER-THAN",
      "aLESS-THAN EQUAL TO OR GREATER-THANaGREATER-THAN EQUAL TO OR LESS-THAN",
      "aEQUAL TO OR LESS-THANd GREATER-THANd PRECEDESd SUCCEEDSaDOES NOT PRECEDE OR EQUAL",
      "c SUCCEED OR EQUALaNOT SQUARE IMAGE OF OR EQUAL TOc ORIGINAL OF OR EQUAL TO",
      "aSQUARE IMAGE OF OR NOT EQUAL TOb ORIGINAL OF OR NOT EQUAL TO",
      "aLESS-THAN BUT NOT EQUIVALENT TOaGREATER-THAN BUT NOT EQUIVALENT TO",
      "aPRECEDES BUT NOT EQUIVALENT TOaSUCCEEDS BUT NOT EQUIVALENT TOaNOT NORMAL SUBGROUP OF",
      "aDOES NOT CONTAIN AS NORMAL SUBGROUPaNOT NORMAL SUBGROUP OF OR EQUAL TO",
      "aDOES NOT CONTAIN AS NORMAL SUBGROUP OR EQUALaVERTICAL ELLIPSIS",
      "aMIDLINE HORIZONTAL ELLIPSISaUP RIGHT DIAGONAL ELLIPSISaDOWN RIGHT DIAGONAL ELLIPSIS",
      "aELEMENT OF WITH LONG HORIZONTAL STROKEd VERTICAL BAR AT END OF HORIZONTAL STROKE",
      "aSMALL ELEMENT OF WITH VERTICAL BAR AT END OF HORIZONTAL STROKE",
      "aELEMENT OF WITH DOT ABOVEd OVERBARaSMALL ELEMENT OF WITH OVERBAR",
      "aELEMENT OF WITH UNDERBARd TWO HORIZONTAL STROKESaCONTAINS WITH LONG HORIZONTAL STROKE",
      "c VERTICAL BAR AT END OF HORIZONTAL STROKE",
      "aSMALL CONTAINS WITH VERTICAL BAR AT END OF HORIZONTAL STROKEaCONTAINS WITH OVERBAR",
      "aSMALL CONTAINS WITH OVERBARaZ NOTATION BAG MEMBERSHIPaDIAMETER SIGNaELECTRIC ARROW",
      "aHOUSEaUP ARROWHEADaDOWN ARROWHEADaPROJECTIVEaPERSPECTIVEaWAVY LINEaLEFT CEILING",
      "aRIGHT CEILINGaLEFT FLOORaRIGHT FLOORaBOTTOM RIGHT CROPb LEFT CROPaTOP RIGHT CROP",
      "b LEFT CROPaREVERSED NOT SIGNaSQUARE LOZENGEaARCaSEGMENTaSECTORaTELEPHONE RECORDER",
      "aPOSITION INDICATORaVIEWDATA SQUAREaPLACE OF INTEREST SIGNaTURNED NOT SIGNaWATCH",
      "aHOURGLASSaTOP LEFT CORNERb RIGHT CORNERaBOTTOM LEFT CORNERb RIGHT CORNER",
      "aTOP HALF INTEGRALaBOTTOM HALF INTEGRALaFROWNaSMILE",
      "aUP ARROWHEAD BETWEEN TWO HORIZONTAL BARSaOPTION KEYaERASE TO THE RIGHT",
      "aX IN A RECTANGLE BOXaKEYBOARDaLEFT-POINTING ANGLE BRACKETaRIGHT-POINTING ANGLE BRACKET",
      "aERASE TO THE LEFTaBENZENE RINGaCYLINDRICITYaALL AROUND-PROFILEaSYMMETRYaTOTAL RUNOUT",
      "aDIMENSION ORIGINaCONICAL TAPERaSLOPEaCOUNTERBOREaCOUNTERSINK",
      "aAPL FUNCTIONAL SYMBOL I-BEAMd SQUISH QUADd QUAD EQUALe DIVIDEe DIAMONDe JOTe CIRCLE",
      "d CIRCLE STILEe JOTd SLASH BARd BACKSLASH BARd QUAD SLASHe BACKSLASHe LESS-THAN",
      "e GREATER-THANd LEFTWARDS VANEd RIGHTWARDS VANEd QUAD LEFTWARDS ARROWe RIGHTWARDS ARROW",
      "d CIRCLE BACKSLASHd DOWN TACK UNDERBARd DELTA STILEd QUAD DOWN CARETe DELTA",
      "d DOWN TACK JOTd UPWARDS VANEd QUAD UPWARDS ARROWd UP TACK OVERBARd DEL STILE",
      "d QUAD UP CARETe DELd UP TACK JOTd DOWNWARDS VANEd QUAD DOWNWARDS ARROWd QUOTE UNDERBAR",
      "d DELTA UNDERBARd DIAMOND UNDERBARd JOT UNDERBARd CIRCLE UNDERBARd UP SHOE JOT",
      "d QUOTE QUADd CIRCLE STARd QUAD COLONd UP TACK DIAERESISd DEL DIAERESISd STAR DIAERESIS",
      "d JOT DIAERESISd CIRCLE DIAERESISd DOWN SHOE STILEd LEFT SHOE STILEd TILDE DIAERESIS",
      "d GREATER-THAN DIAERESISd COMMA BARd DEL TILDEd ZILDEd STILE TILDEd SEMICOLON UNDERBAR",
      "d QUAD NOT EQUALe QUESTIONd DOWN CARET TILDEd UP CARET TILDEd IOTAd RHOd OMEGA",
      "d ALPHA UNDERBARd EPSILON UNDERBARd IOTA UNDERBARd OMEGA UNDERBARd ALPHAaNOT CHECK MARK",
      "aRIGHT ANGLE WITH DOWNWARDS ZIGZAG ARROWaSHOULDERED OPEN BOXaBELL SYMBOL",
      "aVERTICAL LINE WITH MIDDLE DOTaINSERTION SYMBOLaCONTINUOUS UNDERLINE SYMBOL",
      "aDISCONTINUOUS UNDERLINE SYMBOLaEMPHASIS SYMBOLaCOMPOSITION SYMBOL",
      "aWHITE SQUARE WITH CENTRE VERTICAL LINEaENTER SYMBOLaALTERNATIVE KEY SYMBOLaHELM SYMBOL",
      "aCIRCLED HORIZONTAL BAR WITH NOTCHb TRIANGLE DOWNaBROKEN CIRCLE WITH NORTHWEST ARROW",
      "aUNDO SYMBOLaMONOSTABLE SYMBOLaHYSTERESIS SYMBOLaOPEN-CIRCUIT-OUTPUT H-TYPE SYMBOL",
      "d L-TYPE SYMBOLaPASSIVE-PULL-DOWN-OUTPUT SYMBOLc-UP-OUTPUT SYMBOL",
      "aDIRECT CURRENT SYMBOL FORM TWOaSOFTWARE-FUNCTION SYMBOLaAPL FUNCTIONAL SYMBOL QUAD",
      "aDECIMAL SEPARATOR KEY SYMBOLaPREVIOUS PAGEaNEXT PAGEaPRINT SCREEN SYMBOL",
      "aCLEAR SCREEN SYMBOLaLEFT PARENTHESIS UPPER HOOKc EXTENSIONc LOWER HOOK",
      "aRIGHT PARENTHESIS UPPER HOOKc EXTENSIONc LOWER HOOKaLEFT SQUARE BRACKET UPPER CORNER",
      "d EXTENSIONd LOWER CORNERaRIGHT SQUARE BRACKET UPPER CORNERd EXTENSIONd LOWER CORNER",
      "aLEFT CURLY BRACKET UPPER HOOKd MIDDLE PIECEd LOWER HOOKaCURLY BRACKET EXTENSION",
      "aRIGHT CURLY BRACKET UPPER HOOKd MIDDLE PIECEd LOWER HOOKaINTEGRAL EXTENSION",
      "aHORIZONTAL LINE EXTENSIONaUPPER LEFT OR LOWER RIGHT CURLY BRACKET SECTION",
      "b RIGHT OR LOWER LEFT CURLY BRACKET SECTIONaSUMMATION TOPb BOTTOMaTOP SQUARE BRACKET",
      "aBOTTOM SQUARE BRACKETd OVER TOP SQUARE BRACKETaRADICAL SYMBOL BOTTOM",
      "aLEFT VERTICAL BOX LINEaRIGHT VERTICAL BOX LINEaHORIZONTAL SCAN LINE-1d-3d-7d-9",
      "aDENTISTRY SYMBOL LIGHT VERTICAL AND TOP RIGHTf BOTTOM RIGHTe WITH CIRCLE",
      "d DOWN AND HORIZONTAL WITH CIRCLEd UP AND HORIZONTAL WITH CIRCLEd VERTICAL WITH TRIANGLE",
      "d DOWN AND HORIZONTAL WITH TRIANGLEd UP AND HORIZONTAL WITH TRIANGLEd VERTICAL AND WAVE",
      "d DOWN AND HORIZONTAL WITH WAVEd UP AND HORIZONTAL WITH WAVEd DOWN AND HORIZONTAL",
      "d UP AND HORIZONTALd VERTICAL AND TOP LEFTf BOTTOM LEFTaSQUARE FOOTaRETURN SYMBOL",
      "aEJECT SYMBOLaVERTICAL LINE EXTENSIONaMETRICAL BREVEb LONG OVER SHORTb SHORT OVER LONG",
      "b LONG OVER TWO SHORTSb TWO SHORTS OVER LONGd JOINEDb TRISEMEb TETRASEMEb PENTASEME",
      "aEARTH GROUNDaFUSEaTOP PARENTHESISaBOTTOM PARENTHESISaTOP CURLY BRACKET",
      "aBOTTOM CURLY BRACKETaTOP TORTOISE SHELL BRACKETaBOTTOM TORTOISE SHELL BRACKET",
      "aWHITE TRAPEZIUMaBENZENE RING WITH CIRCLEaSTRAIGHTNESSaFLATNESSaAC CURRENT",
      "aELECTRICAL INTERSECTIONaDECIMAL EXPONENT SYMBOLaBLACK RIGHT-POINTING DOUBLE TRIANGLE",
      "b LEFT-POINTING DOUBLE TRIANGLEb UP-POINTING DOUBLE TRIANGLE",
      "b DOWN-POINTING DOUBLE TRIANGLEb RIGHT-POINTING DOUBLE TRIANGLE WITH VERTICAL BAR",
      "b LEFT-POINTING DOUBLE TRIANGLE WITH VERTICAL BAR",
      "b RIGHT-POINTING TRIANGLE WITH DOUBLE VERTICAL BARaALARM CLOCKaSTOPWATCHaTIMER CLOCK",
      "aHOURGLASS WITH FLOWING SANDaBLACK MEDIUM LEFT-POINTING TRIANGLE",
      "c RIGHT-POINTING TRIANGLEc UP-POINTING TRIANGLEc DOWN-POINTING TRIANGLE",
      "aDOUBLE VERTICAL BARaBLACK SQUARE FOR STOPb CIRCLE FOR RECORDaPOWER SYMBOL",
      "b ON-OFF SYMBOLc SYMBOLb SLEEP SYMBOLaOBSERVER EYE SYMBOLaSYMBOL FOR NULL",
      "c START OF HEADINGe TEXTc END OF TEXTe TRANSMISSIONc ENQUIRYc ACKNOWLEDGEc BELL",
      "c BACKSPACEc HORIZONTAL TABULATIONc LINE FEEDc VERTICAL TABULATIONc FORM FEED",
      "c CARRIAGE RETURNc SHIFT OUTd INc DATA LINK ESCAPEc DEVICE CONTROL ONEe TWOe THREEe FOUR",
      "c NEGATIVE ACKNOWLEDGEc SYNCHRONOUS IDLEc END OF TRANSMISSION BLOCKc CANCEL",
      "c END OF MEDIUMc SUBSTITUTEc ESCAPEc FILE SEPARATORc GROUP SEPARATORc RECORD SEPARATOR",
      "c UNIT SEPARATORc SPACEc DELETEaBLANK SYMBOLaOPEN BOXaSYMBOL FOR NEWLINE",
      "c DELETE FORM TWOc SUBSTITUTE FORM TWO"]),
   (0x2440, ["aOCR HOOKb CHAIRb FORKb INVERTED FORKb BELT BUCKLEb BOW TIE",
      "b BRANCH BANK IDENTIFICATIONb AMOUNT OF CHECKb DASHb CUSTOMER ACCOUNT NUMBER",
      "b DOUBLE BACKSLASH"]),
   (0x2460, ["aCIRCLED DIGIT ONEc TWOc THREEc FOURc FIVEc SIXc SEVENc EIGHTc NINEb NUMBER TEN",
      "c ELEVENc TWELVEc THIRTEENc FOURTEENc FIFTEENc SIXTEENc SEVENTEENc EIGHTEENc NINETEEN",
      "c TWENTYaPARENTHESIZED DIGIT ONEc TWOc THREEc FOURc FIVEc SIXc SEVENc EIGHTc NINE",
      "b NUMBER TENc ELEVENc TWELVEc THIRTEENc FOURTEENc FIFTEENc SIXTEENc SEVENTEENc EIGHTEEN",
      "c NINETEENc TWENTYaDIGIT ONE FULL STOPb TWO FULL STOPb THREE FULL STOPb FOUR FULL STOP",
      "b FIVE FULL STOPb SIX FULL STOPb SEVEN FULL STOPb EIGHT FULL STOPb NINE FULL STOP",
      "aNUMBER TEN FULL STOPb ELEVEN FULL STOPb TWELVE FULL STOPb THIRTEEN FULL STOP",
      "b FOURTEEN FULL STOPb FIFTEEN FULL STOPb SIXTEEN FULL STOPb SEVENTEEN FULL STOP",
      "b EIGHTEEN FULL STOPb NINETEEN FULL STOPb TWENTY FULL STOP",
      "aPARENTHESIZED LATIN SMALL LETTER Ae Be Ce De Ee Fe Ge He Ie Je Ke Le Me Ne Oe Pe Qe R",
      "e Se Te Ue Ve We Xe Ye ZaCIRCLED LATIN CAPITAL LETTER Ae Be Ce De Ee Fe Ge He Ie Je Ke L",
      "e Me Ne Oe Pe Qe Re Se Te Ue Ve We Xe Ye Zc SMALL LETTER Ae Be Ce De Ee Fe Ge He Ie Je K",
      "e Le Me Ne Oe Pe Qe Re Se Te Ue Ve We Xe Ye Zb DIGIT ZEROaNEGATIVE CIRCLED NUMBER ELEVEN",
      "d TWELVEd THIRTEENd FOURTEENd FIFTEENd SIXTEENd SEVENTEENd EIGHTEENd NINETEENd TWENTY",
      "aDOUBLE CIRCLED DIGIT ONEd TWOd THREEd FOURd FIVEd SIXd SEVENd EIGHTd NINEc NUMBER TEN",
      "aNEGATIVE CIRCLED DIGIT ZEROaBOX DRAWINGS LIGHT HORIZONTALc HEAVY HORIZONTAL",
      "c LIGHT VERTICALc HEAVY VERTICALc LIGHT TRIPLE DASH HORIZONTAL",
      "c HEAVY TRIPLE DASH HORIZONTALc LIGHT TRIPLE DASH VERTICALc HEAVY TRIPLE DASH VERTICAL",
      "c LIGHT QUADRUPLE DASH HORIZONTALc HEAVY QUADRUPLE DASH HORIZONTAL",
      "c LIGHT QUADRUPLE DASH VERTICALc HEAVY QUADRUPLE DASH VERTICALc LIGHT DOWN AND RIGHT",
      "c DOWN LIGHT AND RIGHT HEAVYd HEAVY AND RIGHT LIGHTc HEAVY DOWN AND RIGHT",
      "c LIGHT DOWN AND LEFTc DOWN LIGHT AND LEFT HEAVYd HEAVY AND LEFT LIGHT",
      "c HEAVY DOWN AND LEFTc LIGHT UP AND RIGHTc UP LIGHT AND RIGHT HEAVY",
      "d HEAVY AND RIGHT LIGHTc HEAVY UP AND RIGHTc LIGHT UP AND LEFTc UP LIGHT AND LEFT HEAVY",
      "d HEAVY AND LEFT LIGHTc HEAVY UP AND LEFTc LIGHT VERTICAL AND RIGHT",
      "c VERTICAL LIGHT AND RIGHT HEAVYc UP HEAVY AND RIGHT DOWN LIGHT",
      "c DOWN HEAVY AND RIGHT UP LIGHTc VERTICAL HEAVY AND RIGHT LIGHT",
      "c DOWN LIGHT AND RIGHT UP HEAVYc UP LIGHT AND RIGHT DOWN HEAVYc HEAVY VERTICAL AND RIGHT",
      "c LIGHT VERTICAL AND LEFTc VERTICAL LIGHT AND LEFT HEAVYc UP HEAVY AND LEFT DOWN LIGHT",
      "c DOWN HEAVY AND LEFT UP LIGHTc VERTICAL HEAVY AND LEFT LIGHT",
      "c DOWN LIGHT AND LEFT UP HEAVYc UP LIGHT AND LEFT DOWN HEAVYc HEAVY VERTICAL AND LEFT",
      "c LIGHT DOWN AND HORIZONTALc LEFT HEAVY AND RIGHT DOWN LIGHT",
      "c RIGHT HEAVY AND LEFT DOWN LIGHTc DOWN LIGHT AND HORIZONTAL HEAVY",
      "d HEAVY AND HORIZONTAL LIGHTc RIGHT LIGHT AND LEFT DOWN HEAVY",
      "c LEFT LIGHT AND RIGHT DOWN HEAVYc HEAVY DOWN AND HORIZONTALc LIGHT UP AND HORIZONTAL",
      "c LEFT HEAVY AND RIGHT UP LIGHTc RIGHT HEAVY AND LEFT UP LIGHT",
      "c UP LIGHT AND HORIZONTAL HEAVYd HEAVY AND HORIZONTAL LIGHT",
      "c RIGHT LIGHT AND LEFT UP HEAVYc LEFT LIGHT AND RIGHT UP HEAVYc HEAVY UP AND HORIZONTAL",
      "c LIGHT VERTICAL AND HORIZONTALc LEFT HEAVY AND RIGHT VERTICAL LIGHT",
      "c RIGHT HEAVY AND LEFT VERTICAL LIGHTc VERTICAL LIGHT AND HORIZONTAL HEAVY",
      "c UP HEAVY AND DOWN HORIZONTAL LIGHTc DOWN HEAVY AND UP HORIZONTAL LIGHT",
      "c VERTICAL HEAVY AND HORIZONTAL LIGHTc LEFT UP HEAVY AND RIGHT DOWN LIGHT",
      "c RIGHT UP HEAVY AND LEFT DOWN LIGHTc LEFT DOWN HEAVY AND RIGHT UP LIGHT",
      "c RIGHT DOWN HEAVY AND LEFT UP LIGHTc DOWN LIGHT AND UP HORIZONTAL HEAVY",
      "c UP LIGHT AND DOWN HORIZONTAL HEAVYc RIGHT LIGHT AND LEFT VERTICAL HEAVY",
      "c LEFT LIGHT AND RIGHT VERTICAL HEAVYc HEAVY VERTICAL AND HORIZONTAL",
      "c LIGHT DOUBLE DASH HORIZONTALc HEAVY DOUBLE DASH HORIZONTALc LIGHT DOUBLE DASH VERTICAL",
      "c HEAVY DOUBLE DASH VERTICALc DOUBLE HORIZONTALd VERTICALc DOWN SINGLE AND RIGHT DOUBLE",
      "d DOUBLE AND RIGHT SINGLEc DOUBLE DOWN AND RIGHTc DOWN SINGLE AND LEFT DOUBLE",
      "d DOUBLE AND LEFT SINGLEc DOUBLE DOWN AND LEFTc UP SINGLE AND RIGHT DOUBLE",
      "d DOUBLE AND RIGHT SINGLEc DOUBLE UP AND RIGHTc UP SINGLE AND LEFT DOUBLE",
      "d DOUBLE AND LEFT SINGLEc DOUBLE UP AND LEFTc VERTICAL SINGLE AND RIGHT DOUBLE",
      "d DOUBLE AND RIGHT SINGLEc DOUBLE VERTICAL AND RIGHTc VERTICAL SINGLE AND LEFT DOUBLE",
      "d DOUBLE AND LEFT SINGLEc DOUBLE VERTICAL AND LEFTc DOWN SINGLE AND HORIZONTAL DOUBLE",
      "d DOUBLE AND HORIZONTAL SINGLEc DOUBLE DOWN AND HORIZONTAL",
      "c UP SINGLE AND HORIZONTAL DOUBLEd DOUBLE AND HORIZONTAL SINGLE",
      "c DOUBLE UP AND HORIZONTALc VERTICAL SINGLE AND HORIZONTAL DOUBLE",
      "d DOUBLE AND HORIZONTAL SINGLEc DOUBLE VERTICAL AND HORIZONTALc LIGHT ARC DOWN AND RIGHT",
      "g LEFTe UP AND LEFTg RIGHTd DIAGONAL UPPER RIGHT TO LOWER LEFTf LEFT TO LOWER RIGHT",
      "e CROSSd LEFTd UPd RIGHTd DOWNc HEAVY LEFTd UPd RIGHTd DOWNc LIGHT LEFT AND HEAVY RIGHT",
      "d UP AND HEAVY DOWNc HEAVY LEFT AND LIGHT RIGHTd UP AND LIGHT DOWNaUPPER HALF BLOCK",
      "aLOWER ONE EIGHTH BLOCKc QUARTER BLOCKb THREE EIGHTHS BLOCKb HALF BLOCK",
      "b FIVE EIGHTHS BLOCKb THREE QUARTERS BLOCKb SEVEN EIGHTHS BLOCKaFULL BLOCK",
      "aLEFT SEVEN EIGHTHS BLOCKb THREE QUARTERS BLOCKb FIVE EIGHTHS BLOCKb HALF BLOCK",
      "b THREE EIGHTHS BLOCKb ONE QUARTER BLOCKc EIGHTH BLOCKaRIGHT HALF BLOCKaLIGHT SHADE",
      "aMEDIUM SHADEaDARK SHADEaUPPER ONE EIGHTH BLOCKaRIGHT ONE EIGHTH BLOCK",
      "aQUADRANT LOWER LEFTc RIGHTb UPPER LEFTd AND LOWER LEFT AND LOWER RIGHTf RIGHT",
      "e UPPER RIGHT AND LOWER LEFTi RIGHTc RIGHTd AND LOWER LEFTg AND LOWER RIGHTaBLACK SQUARE",
      "aWHITE SQUAREc WITH ROUNDED CORNERSc CONTAINING BLACK SMALL SQUARE",
      "aSQUARE WITH HORIZONTAL FILLc VERTICAL FILLc ORTHOGONAL CROSSHATCH FILL",
      "c UPPER LEFT TO LOWER RIGHT FILLd RIGHT TO LOWER LEFT FILLc DIAGONAL CROSSHATCH FILL",
      "aBLACK SMALL SQUAREaWHITE SMALL SQUAREaBLACK RECTANGLEaWHITE RECTANGLE",
      "aBLACK VERTICAL RECTANGLEaWHITE VERTICAL RECTANGLEaBLACK PARALLELOGRAM",
      "aWHITE PARALLELOGRAMaBLACK UP-POINTING TRIANGLEaWHITE UP-POINTING TRIANGLE",
      "aBLACK UP-POINTING SMALL TRIANGLEaWHITE UP-POINTING SMALL TRIANGLE",
      "aBLACK RIGHT-POINTING TRIANGLEaWHITE RIGHT-POINTING TRIANGLE",
      "aBLACK RIGHT-POINTING SMALL TRIANGLEaWHITE RIGHT-POINTING SMALL TRIANGLE",
      "aBLACK RIGHT-POINTING POINTERaWHITE RIGHT-POINTING POINTERaBLACK DOWN-POINTING TRIANGLE",
      "aWHITE DOWN-POINTING TRIANGLEaBLACK DOWN-POINTING SMALL TRIANGLE",
      "aWHITE DOWN-POINTING SMALL TRIANGLEaBLACK LEFT-POINTING TRIANGLE",
      "aWHITE LEFT-POINTING TRIANGLEaBLACK LEFT-POINTING SMALL TRIANGLE",
      "aWHITE LEFT-POINTING SMALL TRIANGLEaBLACK LEFT-POINTING POINTER",
      "aWHITE LEFT-POINTING POINTERaBLACK DIAMONDaWHITE DIAMONDc CONTAINING BLACK SMALL DIAMOND",
      "aFISHEYEaLOZENGEaWHITE CIRCLEaDOTTED CIRCLEaCIRCLE WITH VERTICAL FILLaBULLSEYE",
      "aBLACK CIRCLEaCIRCLE WITH LEFT HALF BLACKc RIGHT HALF BLACKc LOWER HALF BLACK",
      "c UPPER HALF BLACKd RIGHT QUADRANT BLACKc ALL BUT UPPER LEFT QUADRANT BLACK",
      "aLEFT HALF BLACK CIRCLEaRIGHT HALF BLACK CIRCLEaINVERSE BULLETb WHITE CIRCLE",
      "aUPPER HALF INVERSE WHITE CIRCLEaLOWER HALF INVERSE WHITE CIRCLE",
      "aUPPER LEFT QUADRANT CIRCULAR ARCb RIGHT QUADRANT CIRCULAR ARC",
      "aLOWER RIGHT QUADRANT CIRCULAR ARCb LEFT QUADRANT CIRCULAR ARCaUPPER HALF CIRCLE",
      "aLOWER HALF CIRCLEaBLACK LOWER RIGHT TRIANGLEc LEFT TRIANGLEb UPPER LEFT TRIANGLE",
      "c RIGHT TRIANGLEaWHITE BULLETaSQUARE WITH LEFT HALF BLACKc RIGHT HALF BLACK",
      "c UPPER LEFT DIAGONAL HALF BLACKc LOWER RIGHT DIAGONAL HALF BLACK",
      "aWHITE SQUARE WITH VERTICAL BISECTING LINEb UP-POINTING TRIANGLE WITH DOT",
      "aUP-POINTING TRIANGLE WITH LEFT HALF BLACKe RIGHT HALF BLACKaLARGE CIRCLE",
      "aWHITE SQUARE WITH UPPER LEFT QUADRANTd LOWER LEFT QUADRANTe RIGHT QUADRANT",
      "d UPPER RIGHT QUADRANTb CIRCLE WITH UPPER LEFT QUADRANTd LOWER LEFT QUADRANT",
      "e RIGHT QUADRANTd UPPER RIGHT QUADRANTaUPPER LEFT TRIANGLEb RIGHT TRIANGLE",
      "aLOWER LEFT TRIANGLEaWHITE MEDIUM SQUAREaBLACK MEDIUM SQUAREaWHITE MEDIUM SMALL SQUARE",
      "aBLACK MEDIUM SMALL SQUAREaLOWER RIGHT TRIANGLEaBLACK SUN WITH RAYSaCLOUDaUMBRELLA",
      "aSNOWMANaCOMETaBLACK STARaWHITE STARaLIGHTNINGaTHUNDERSTORMaSUNaASCENDING NODE",
      "aDESCENDING NODEaCONJUNCTIONaOPPOSITIONaBLACK TELEPHONEaWHITE TELEPHONEaBALLOT BOX",
      "c WITH CHECKd XaSALTIREaUMBRELLA WITH RAIN DROPSaHOT BEVERAGEaWHITE SHOGI PIECE",
      "aBLACK SHOGI PIECEaSHAMROCKaREVERSED ROTATED FLORAL HEART BULLET",
      "aBLACK LEFT POINTING INDEXb RIGHT POINTING INDEXaWHITE LEFT POINTING INDEX",
      "b UP POINTING INDEXb RIGHT POINTING INDEXb DOWN POINTING INDEXaSKULL AND CROSSBONES",
      "aCAUTION SIGNaRADIOACTIVE SIGNaBIOHAZARD SIGNaCADUCEUSaANKHaORTHODOX CROSSaCHI RHO",
      "aCROSS OF LORRAINEc JERUSALEMaSTAR AND CRESCENTaFARSI SYMBOLaADI SHAKTI",
      "aHAMMER AND SICKLEaPEACE SYMBOLaYIN YANGaTRIGRAM FOR HEAVENc LAKEc FIREc THUNDERc WIND",
      "c WATERc MOUNTAINc EARTHaWHEEL OF DHARMAaWHITE FROWNING FACEb SMILING FACE",
      "aBLACK SMILING FACEaWHITE SUN WITH RAYSaFIRST QUARTER MOONaLAST QUARTER MOONaMERCURY",
      "aFEMALE SIGNaEARTHaMALE SIGNaJUPITERaSATURNaURANUSaNEPTUNEaPLUTOaARIESaTAURUSaGEMINI",
      "aCANCERaLEOaVIRGOaLIBRAaSCORPIUSaSAGITTARIUSaCAPRICORNaAQUARIUSaPISCESaWHITE CHESS KING",
      "c QUEENc ROOKc BISHOPc KNIGHTc PAWNaBLACK CHESS KINGc QUEENc ROOKc BISHOPc KNIGHTc PAWN",
      "b SPADE SUITaWHITE HEART SUITb DIAMOND SUITaBLACK CLUB SUITaWHITE SPADE SUIT",
      "aBLACK HEART SUITb DIAMOND SUITaWHITE CLUB SUITaHOT SPRINGSaQUARTER NOTEaEIGHTH NOTE",
      "aBEAMED EIGHTH NOTESb SIXTEENTH NOTESaMUSIC FLAT SIGNb NATURAL SIGNb SHARP SIGN",
      "aWEST SYRIAC CROSSaEAST SYRIAC CROSSaUNIVERSAL RECYCLING SYMBOL",
      "aRECYCLING SYMBOL FOR TYPE-1 PLASTICSe-2 PLASTICSe-3 PLASTICSe-4 PLASTICSe-5 PLASTICS",
      "e-6 PLASTICSe-7 PLASTICSd GENERIC MATERIALSaBLACK UNIVERSAL RECYCLING SYMBOL",
      "aRECYCLED PAPER SYMBOLaPARTIALLY-RECYCLED PAPER SYMBOLaPERMANENT PAPER SIGN",
      "aWHEELCHAIR SYMBOLaDIE FACE-1c-2c-3c-4c-5c-6aWHITE CIRCLE WITH DOT RIGHTd TWO DOTS",
      "aBLACK CIRCLE WITH WHITE DOT RIGHTd TWO WHITE DOTSaMONOGRAM FOR YANGc YIN",
      "aDIGRAM FOR GREATER YANGc LESSER YINd YANGc GREATER YINaWHITE FLAGaBLACK FLAG",
      "aHAMMER AND PICKaANCHORaCROSSED SWORDSaSTAFF OF AESCULAPIUSaSCALESaALEMBICaFLOWERaGEAR",
      "aSTAFF OF HERMESaATOM SYMBOLaFLEUR-DE-LISaOUTLINED WHITE STAR",
      "aTHREE LINES CONVERGING RIGHTd LEFTaWARNING SIGNaHIGH VOLTAGE SIGNaDOUBLED FEMALE SIGN",
      "b MALE SIGNaINTERLOCKED FEMALE AND MALE SIGNaMALE AND FEMALE SIGNb WITH STROKE SIGN",
      "d AND MALE AND FEMALE SIGNaVERTICAL MALE WITH STROKE SIGN",
      "aHORIZONTAL MALE WITH STROKE SIGNaMEDIUM WHITE CIRCLEb BLACK CIRCLEb SMALL WHITE CIRCLE",
      "aMARRIAGE SYMBOLaDIVORCE SYMBOLaUNMARRIED PARTNERSHIP SYMBOLaCOFFINaFUNERAL URNaNEUTER",
      "aCERESaPALLASaJUNOaVESTAaCHIRONaBLACK MOON LILITHaSEXTILEaSEMISEXTILEaQUINCUNX",
      "aSESQUIQUADRATEaSOCCER BALLaBASEBALLaSQUARED KEYaWHITE DRAUGHTS MANc KING",
      "aBLACK DRAUGHTS MANc KINGaSNOWMAN WITHOUT SNOWaSUN BEHIND CLOUDaRAINaBLACK SNOWMAN",
      "aTHUNDER CLOUD AND RAINaTURNED WHITE SHOGI PIECEb BLACK SHOGI PIECE",
      "aWHITE DIAMOND IN SQUAREaCROSSING LANESaDISABLED CARaOPHIUCHUSaPICKaCAR SLIDING",
      "aHELMET WITH WHITE CROSSaCIRCLED CROSSING LANESaCHAINSaNO ENTRY",
      "aALTERNATE ONE-WAY LEFT WAY TRAFFICaBLACK TWO-WAY LEFT WAY TRAFFIC",
      "aWHITE TWO-WAY LEFT WAY TRAFFICaBLACK LEFT LANE MERGEaWHITE LEFT LANE MERGE",
      "aDRIVE SLOW SIGNaHEAVY WHITE DOWN-POINTING TRIANGLEaLEFT CLOSED ENTRYaSQUARED SALTIRE",
      "aFALLING DIAGONAL IN WHITE CIRCLE IN BLACK SQUAREaBLACK TRUCKaRESTRICTED LEFT ENTRY-1d-2",
      "aASTRONOMICAL SYMBOL FOR URANUSaHEAVY CIRCLE WITH STROKE AND TWO DOTS ABOVEaPENTAGRAM",
      "aRIGHT-HANDED INTERLACED PENTAGRAMaLEFT-HANDED INTERLACED PENTAGRAMaINVERTED PENTAGRAM",
      "aBLACK CROSS ON SHIELDaSHINTO SHRINEaCHURCHaCASTLEaHISTORIC SITEaGEAR WITHOUT HUB",
      "b WITH HANDLESaMAP SYMBOL FOR LIGHTHOUSEaMOUNTAINaUMBRELLA ON GROUNDaFOUNTAIN",
      "aFLAG IN HOLEaFERRYaSAILBOATaSQUARE FOUR CORNERSaSKIERaICE SKATEaPERSON WITH BALLaTENT",
      "aJAPANESE BANK SYMBOLaHEADSTONE GRAVEYARD SYMBOLaFUEL PUMPaCUP ON BLACK SQUARE",
      "aWHITE FLAG WITH HORIZONTAL MIDDLE BLACK STRIPEaBLACK SAFETY SCISSORS",
      "aUPPER BLADE SCISSORSaBLACK SCISSORSaLOWER BLADE SCISSORSaWHITE SCISSORS",
      "b HEAVY CHECK MARKaTELEPHONE LOCATION SIGNaTAPE DRIVEaAIRPLANEaENVELOPEaRAISED FIST",
      "b HANDaVICTORY HANDaWRITING HANDaLOWER RIGHT PENCILaPENCILaUPPER RIGHT PENCILaWHITE NIB",
      "aBLACK NIBaCHECK MARKaHEAVY CHECK MARKaMULTIPLICATION XaHEAVY MULTIPLICATION XaBALLOT X",
      "aHEAVY BALLOT XaOUTLINED GREEK CROSSaHEAVY GREEK CROSSaOPEN CENTRE CROSS",
      "aHEAVY OPEN CENTRE CROSSaLATIN CROSSaSHADOWED WHITE LATIN CROSSaOUTLINED LATIN CROSS",
      "aMALTESE CROSSaSTAR OF DAVIDaFOUR TEARDROP-SPOKED ASTERISKb BALLOON-SPOKED ASTERISK",
      "aHEAVY FOUR BALLOON-SPOKED ASTERISKaFOUR CLUB-SPOKED ASTERISKaBLACK FOUR POINTED STAR",
      "aWHITE FOUR POINTED STARaSPARKLESaSTRESS OUTLINED WHITE STARaCIRCLED WHITE STAR",
      "aOPEN CENTRE BLACK STARaBLACK CENTRE WHITE STARaOUTLINED BLACK STAR",
      "aHEAVY OUTLINED BLACK STARaPINWHEEL STARaSHADOWED WHITE STARaHEAVY ASTERISK",
      "aOPEN CENTRE ASTERISKaEIGHT SPOKED ASTERISKb POINTED BLACK STARc PINWHEEL STAR",
      "aSIX POINTED BLACK STARaEIGHT POINTED RECTILINEAR BLACK STAR",
      "aHEAVY EIGHT POINTED RECTILINEAR BLACK STARaTWELVE POINTED BLACK STAR",
      "aSIXTEEN POINTED ASTERISKaTEARDROP-SPOKED ASTERISKaOPEN CENTRE TEARDROP-SPOKED ASTERISK",
      "aHEAVY TEARDROP-SPOKED ASTERISKaSIX PETALLED BLACK AND WHITE FLORETTEaBLACK FLORETTE",
      "aWHITE FLORETTEaEIGHT PETALLED OUTLINED BLACK FLORETTE",
      "aCIRCLED OPEN CENTRE EIGHT POINTED STARaHEAVY TEARDROP-SPOKED PINWHEEL ASTERISK",
      "aSNOWFLAKEaTIGHT TRIFOLIATE SNOWFLAKEaHEAVY CHEVRON SNOWFLAKEaSPARKLEaHEAVY SPARKLE",
      "aBALLOON-SPOKED ASTERISKaEIGHT TEARDROP-SPOKED PROPELLER ASTERISK",
      "aHEAVY EIGHT TEARDROP-SPOKED PROPELLER ASTERISKaCROSS MARKaSHADOWED WHITE CIRCLE",
      "aNEGATIVE SQUARED CROSS MARKaLOWER RIGHT DROP-SHADOWED WHITE SQUARE",
      "aUPPER RIGHT DROP-SHADOWED WHITE SQUAREaLOWER RIGHT SHADOWED WHITE SQUARE",
      "aUPPER RIGHT SHADOWED WHITE SQUAREaBLACK QUESTION MARK ORNAMENT",
      "aWHITE QUESTION MARK ORNAMENTb EXCLAMATION MARK ORNAMENTaBLACK DIAMOND MINUS WHITE X",
      "aHEAVY EXCLAMATION MARK SYMBOLaLIGHT VERTICAL BARaMEDIUM VERTICAL BARaHEAVY VERTICAL BAR",
      "b SINGLE TURNED COMMA QUOTATION MARK ORNAMENTc COMMA QUOTATION MARK ORNAMENT",
      "b DOUBLE TURNED COMMA QUOTATION MARK ORNAMENTc COMMA QUOTATION MARK ORNAMENT",
      "b LOW SINGLE COMMA QUOTATION MARK ORNAMENTc DOUBLE COMMA QUOTATION MARK ORNAMENT",
      "aCURVED STEM PARAGRAPH SIGN ORNAMENTaHEAVY EXCLAMATION MARK ORNAMENT",
      "b HEART EXCLAMATION MARK ORNAMENTb BLACK HEARTaROTATED HEAVY BLACK HEART BULLET",
      "aFLORAL HEARTaROTATED FLORAL HEART BULLETaMEDIUM LEFT PARENTHESIS ORNAMENT",
      "b RIGHT PARENTHESIS ORNAMENTb FLATTENED LEFT PARENTHESIS ORNAMENT",
      "c RIGHT PARENTHESIS ORNAMENTb LEFT-POINTING ANGLE BRACKET ORNAMENT",
      "b RIGHT-POINTING ANGLE BRACKET ORNAMENT",
      "aHEAVY LEFT-POINTING ANGLE QUOTATION MARK ORNAMENT",
      "b RIGHT-POINTING ANGLE QUOTATION MARK ORNAMENTb LEFT-POINTING ANGLE BRACKET ORNAMENT",
      "b RIGHT-POINTING ANGLE BRACKET ORNAMENTaLIGHT LEFT TORTOISE SHELL BRACKET ORNAMENT",
      "b RIGHT TORTOISE SHELL BRACKET ORNAMENTaMEDIUM LEFT CURLY BRACKET ORNAMENT",
      "b RIGHT CURLY BRACKET ORNAMENTaDINGBAT NEGATIVE CIRCLED DIGIT ONEe TWOe THREEe FOUR",
      "e FIVEe SIXe SEVENe EIGHTe NINEd NUMBER TENb CIRCLED SANS-SERIF DIGIT ONEf TWOf THREE",
      "f FOURf FIVEf SIXf SEVENf EIGHTf NINEe NUMBER TENb NEGATIVE CIRCLED SANS-SERIF DIGIT ONE",
      "g TWOg THREEg FOURg FIVEg SIXg SEVENg EIGHTg NINEf NUMBER TEN",
      "aHEAVY WIDE-HEADED RIGHTWARDS ARROWb PLUS SIGNb MINUS SIGNb DIVISION SIGN",
      "b SOUTH EAST ARROWb RIGHTWARDS ARROWb NORTH EAST ARROWaDRAFTING POINT RIGHTWARDS ARROW",
      "aHEAVY ROUND-TIPPED RIGHTWARDS ARROWaTRIANGLE-HEADED RIGHTWARDS ARROW",
      "aHEAVY TRIANGLE-HEADED RIGHTWARDS ARROWaDASHED TRIANGLE-HEADED RIGHTWARDS ARROW",
      "aHEAVY DASHED TRIANGLE-HEADED RIGHTWARDS ARROWaBLACK RIGHTWARDS ARROW",
      "aTHREE-D TOP-LIGHTED RIGHTWARDS ARROWHEADc BOTTOM-LIGHTED RIGHTWARDS ARROWHEAD",
      "aBLACK RIGHTWARDS ARROWHEADaHEAVY BLACK CURVED DOWNWARDS AND RIGHTWARDS ARROW",
      "d UPWARDS AND RIGHTWARDS ARROWaSQUAT BLACK RIGHTWARDS ARROW",
      "aHEAVY CONCAVE-POINTED BLACK RIGHTWARDS ARROWaRIGHT-SHADED WHITE RIGHTWARDS ARROW",
      "aLEFT-SHADED WHITE RIGHTWARDS ARROWaBACK-TILTED SHADOWED WHITE RIGHTWARDS ARROW",
      "aFRONT-TILTED SHADOWED WHITE RIGHTWARDS ARROW",
      "aHEAVY LOWER RIGHT-SHADOWED WHITE RIGHTWARDS ARROW",
      "b UPPER RIGHT-SHADOWED WHITE RIGHTWARDS ARROW",
      "aNOTCHED LOWER RIGHT-SHADOWED WHITE RIGHTWARDS ARROWaCURLY LOOP",
      "aNOTCHED UPPER RIGHT-SHADOWED WHITE RIGHTWARDS ARROW",
      "aCIRCLED HEAVY WHITE RIGHTWARDS ARROWaWHITE-FEATHERED RIGHTWARDS ARROW",
      "aBLACK-FEATHERED SOUTH EAST ARROWc RIGHTWARDS ARROWc NORTH EAST ARROW",
      "aHEAVY BLACK-FEATHERED SOUTH EAST ARROWd RIGHTWARDS ARROWd NORTH EAST ARROW",
      "aTEARDROP-BARBED RIGHTWARDS ARROWaHEAVY TEARDROP-SHANKED RIGHTWARDS ARROW",
      "aWEDGE-TAILED RIGHTWARDS ARROWaHEAVY WEDGE-TAILED RIGHTWARDS ARROW",
      "aOPEN-OUTLINED RIGHTWARDS ARROWaDOUBLE CURLY LOOPaTHREE DIMENSIONAL ANGLE",
      "aWHITE TRIANGLE CONTAINING SMALL WHITE TRIANGLEaPERPENDICULARaOPEN SUBSETb SUPERSET",
      "aLEFT S-SHAPED BAG DELIMITERaRIGHT S-SHAPED BAG DELIMITERaOR WITH DOT INSIDE",
      "aREVERSE SOLIDUS PRECEDING SUBSETaSUPERSET PRECEDING SOLIDUS",
      "aVERTICAL BAR WITH HORIZONTAL STROKEaMATHEMATICAL RISING DIAGONALaLONG DIVISION",
      "aMATHEMATICAL FALLING DIAGONALaSQUARED LOGICAL ANDc ORaWHITE DIAMOND WITH CENTRED DOT",
      "aAND WITH DOTaELEMENT OF OPENING UPWARDSaLOWER RIGHT CORNER WITH DOT",
      "aUPPER LEFT CORNER WITH DOTaLEFT OUTER JOINaRIGHT OUTER JOINaFULL OUTER JOIN",
      "aLARGE UP TACKb DOWN TACKaLEFT AND RIGHT DOUBLE TURNSTILEd TACKb MULTIMAP",
      "aLONG RIGHT TACKb LEFT TACKaUP TACK WITH CIRCLE ABOVEaLOZENGE DIVIDED BY HORIZONTAL RULE",
      "aWHITE CONCAVE-SIDED DIAMONDe WITH LEFTWARDS TICKf RIGHTWARDS TICK",
      "b SQUARE WITH LEFTWARDS TICKd RIGHTWARDS TICKaMATHEMATICAL LEFT WHITE SQUARE BRACKET",
      "b RIGHT WHITE SQUARE BRACKETb LEFT ANGLE BRACKETb RIGHT ANGLE BRACKET",
      "b LEFT DOUBLE ANGLE BRACKETb RIGHT DOUBLE ANGLE BRACKET",
      "b LEFT WHITE TORTOISE SHELL BRACKETb RIGHT WHITE TORTOISE SHELL BRACKET",
      "b LEFT FLATTENED PARENTHESISb RIGHT FLATTENED PARENTHESISaUPWARDS QUADRUPLE ARROW",
      "aDOWNWARDS QUADRUPLE ARROWaANTICLOCKWISE GAPPED CIRCLE ARROW",
      "aCLOCKWISE GAPPED CIRCLE ARROWaRIGHT ARROW WITH CIRCLED PLUSaLONG LEFTWARDS ARROW",
      "b RIGHTWARDS ARROWb LEFT RIGHT ARROWb LEFTWARDS DOUBLE ARROWb RIGHTWARDS DOUBLE ARROW",
      "b LEFT RIGHT DOUBLE ARROWb LEFTWARDS ARROW FROM BARb RIGHTWARDS ARROW FROM BAR",
      "b LEFTWARDS DOUBLE ARROW FROM BARb RIGHTWARDS DOUBLE ARROW FROM BARc SQUIGGLE ARROW",
      "aBRAILLE PATTERN BLANKc DOTS-1d-2d-12d-3d-13d-23d-123d-4d-14d-24d-124d-34d-134d-234",
      "d-1234d-5d-15d-25d-125d-35d-135d-235d-1235d-45d-145d-245d-1245d-345d-1345d-2345d-12345",
      "d-6d-16d-26d-126d-36d-136d-236d-1236d-46d-146d-246d-1246d-346d-1346d-2346d-12346d-56",
      "d-156d-256d-1256d-356d-1356d-2356d-12356d-456d-1456d-2456d-12456d-3456d-13456d-23456",
      "d-123456d-7d-17d-27d-127d-37d-137d-237d-1237d-47d-147d-247d-1247d-347d-1347d-2347d-12347",
      "d-57d-157d-257d-1257d-357d-1357d-2357d-12357d-457d-1457d-2457d-12457d-3457d-13457d-23457",
      "d-123457d-67d-167d-267d-1267d-367d-1367d-2367d-12367d-467d-1467d-2467d-12467d-3467",
      "d-13467d-23467d-123467d-567d-1567d-2567d-12567d-3567d-13567d-23567d-123567d-4567d-14567",
      "d-24567d-124567d-34567d-134567d-234567d-1234567d-8d-18d-28d-128d-38d-138d-238d-1238d-48",
      "d-148d-248d-1248d-348d-1348d-2348d-12348d-58d-158d-258d-1258d-358d-1358d-2358d-12358",
      "d-458d-1458d-2458d-12458d-3458d-13458d-23458d-123458d-68d-168d-268d-1268d-368d-1368",
      "d-2368d-12368d-468d-1468d-2468d-12468d-3468d-13468d-23468d-123468d-568d-1568d-2568",
      "d-12568d-3568d-13568d-23568d-123568d-4568d-14568d-24568d-124568d-34568d-134568d-234568",
      "d-1234568d-78d-178d-278d-1278d-378d-1378d-2378d-12378d-478d-1478d-2478d-12478d-3478",
      "d-13478d-23478d-123478d-578d-1578d-2578d-12578d-3578d-13578d-23578d-123578d-4578d-14578",
      "d-24578d-124578d-34578d-134578d-234578d-1234578d-678d-1678d-2678d-12678d-3678d-13678",
      "d-23678d-123678d-4678d-14678d-24678d-124678d-34678d-134678d-234678d-1234678d-5678d-15678",
      "d-25678d-125678d-35678d-135678d-235678d-1235678d-45678d-145678d-245678d-1245678d-345678",
      "d-1345678d-2345678d-12345678aRIGHTWARDS TWO-HEADED ARROW WITH VERTICAL STROKE",
      "f DOUBLE VERTICAL STROKEaLEFTWARDS DOUBLE ARROW WITH VERTICAL STROKE",
      "aRIGHTWARDS DOUBLE ARROW WITH VERTICAL STROKE",
      "aLEFT RIGHT DOUBLE ARROW WITH VERTICAL STROKEaRIGHTWARDS TWO-HEADED ARROW FROM BAR",
      "aLEFTWARDS DOUBLE ARROW FROM BARaRIGHTWARDS DOUBLE ARROW FROM BAR",
      "aDOWNWARDS ARROW WITH HORIZONTAL STROKEaUPWARDS ARROW WITH HORIZONTAL STROKE",
      "b TRIPLE ARROWaDOWNWARDS TRIPLE ARROWaLEFTWARDS DOUBLE DASH ARROW",
      "aRIGHTWARDS DOUBLE DASH ARROWaLEFTWARDS TRIPLE DASH ARROWaRIGHTWARDS TRIPLE DASH ARROW",
      "b TWO-HEADED TRIPLE DASH ARROWb ARROW WITH DOTTED STEMaUPWARDS ARROW TO BAR",
      "aDOWNWARDS ARROW TO BARaRIGHTWARDS ARROW WITH TAIL WITH VERTICAL STROKE",
      "f DOUBLE VERTICAL STROKEb TWO-HEADED ARROW WITH TAILg WITH VERTICAL STROKE",
      "h DOUBLE VERTICAL STROKEaLEFTWARDS ARROW-TAILaRIGHTWARDS ARROW-TAIL",
      "aLEFTWARDS DOUBLE ARROW-TAILaRIGHTWARDS DOUBLE ARROW-TAIL",
      "aLEFTWARDS ARROW TO BLACK DIAMONDaRIGHTWARDS ARROW TO BLACK DIAMOND",
      "aLEFTWARDS ARROW FROM BAR TO BLACK DIAMONDaRIGHTWARDS ARROW FROM BAR TO BLACK DIAMOND",
      "aNORTH WEST AND SOUTH EAST ARROWb EAST AND SOUTH WEST ARROWb WEST ARROW WITH HOOK",
      "b EAST ARROW WITH HOOKaSOUTH EAST ARROW WITH HOOKb WEST ARROW WITH HOOK",
      "aNORTH WEST ARROW AND NORTH EAST ARROWb EAST ARROW AND SOUTH EAST ARROW",
      "aSOUTH EAST ARROW AND SOUTH WEST ARROWb WEST ARROW AND NORTH WEST ARROW",
      "aRISING DIAGONAL CROSSING FALLING DIAGONALaFALLING DIAGONAL CROSSING RISING DIAGONAL",
      "aSOUTH EAST ARROW CROSSING NORTH EAST ARROWaNORTH EAST ARROW CROSSING SOUTH EAST ARROW",
      "aFALLING DIAGONAL CROSSING NORTH EAST ARROWaRISING DIAGONAL CROSSING SOUTH EAST ARROW",
      "aNORTH EAST ARROW CROSSING NORTH WEST ARROWb WEST ARROW CROSSING NORTH EAST ARROW",
      "aWAVE ARROW POINTING DIRECTLY RIGHTaARROW POINTING RIGHTWARDS THEN CURVING UPWARDS",
      "f DOWNWARDSc DOWNWARDS THEN CURVING LEFTWARDSf RIGHTWARDSaRIGHT-SIDE ARC CLOCKWISE ARROW",
      "aLEFT-SIDE ARC ANTICLOCKWISE ARROWaTOP ARC ANTICLOCKWISE ARROW",
      "aBOTTOM ARC ANTICLOCKWISE ARROWaTOP ARC CLOCKWISE ARROW WITH MINUS",
      "c ANTICLOCKWISE ARROW WITH PLUSaLOWER RIGHT SEMICIRCULAR CLOCKWISE ARROW",
      "b LEFT SEMICIRCULAR ANTICLOCKWISE ARROWaANTICLOCKWISE CLOSED CIRCLE ARROW",
      "aCLOCKWISE CLOSED CIRCLE ARROWaRIGHTWARDS ARROW ABOVE SHORT LEFTWARDS ARROW",
      "aLEFTWARDS ARROW ABOVE SHORT RIGHTWARDS ARROW",
      "aSHORT RIGHTWARDS ARROW ABOVE LEFTWARDS ARROWaRIGHTWARDS ARROW WITH PLUS BELOW",
      "aLEFTWARDS ARROW WITH PLUS BELOWaRIGHTWARDS ARROW THROUGH X",
      "aLEFT RIGHT ARROW THROUGH SMALL CIRCLEaUPWARDS TWO-HEADED ARROW FROM SMALL CIRCLE",
      "aLEFT BARB UP RIGHT BARB DOWN HARPOONc DOWN RIGHT BARB UP HARPOON",
      "aUP BARB RIGHT DOWN BARB LEFT HARPOONc LEFT DOWN BARB RIGHT HARPOON",
      "aLEFT BARB UP RIGHT BARB UP HARPOONaUP BARB RIGHT DOWN BARB RIGHT HARPOON",
      "aLEFT BARB DOWN RIGHT BARB DOWN HARPOONaUP BARB LEFT DOWN BARB LEFT HARPOON",
      "aLEFTWARDS HARPOON WITH BARB UP TO BARaRIGHTWARDS HARPOON WITH BARB UP TO BAR",
      "aUPWARDS HARPOON WITH BARB RIGHT TO BARaDOWNWARDS HARPOON WITH BARB RIGHT TO BAR",
      "aLEFTWARDS HARPOON WITH BARB DOWN TO BARaRIGHTWARDS HARPOON WITH BARB DOWN TO BAR",
      "aUPWARDS HARPOON WITH BARB LEFT TO BARaDOWNWARDS HARPOON WITH BARB LEFT TO BAR",
      "aLEFTWARDS HARPOON WITH BARB UP FROM BARaRIGHTWARDS HARPOON WITH BARB UP FROM BAR",
      "aUPWARDS HARPOON WITH BARB RIGHT FROM BARaDOWNWARDS HARPOON WITH BARB RIGHT FROM BAR",
      "aLEFTWARDS HARPOON WITH BARB DOWN FROM BARaRIGHTWARDS HARPOON WITH BARB DOWN FROM BAR",
      "aUPWARDS HARPOON WITH BARB LEFT FROM BARaDOWNWARDS HARPOON WITH BARB LEFT FROM BAR",
      "aLEFTWARDS HARPOON WITH BARB UP ABOVE LEFTWARDS HARPOON WITH BARB DOWN",
      "aUPWARDS HARPOON WITH BARB LEFT BESIDE UPWARDS HARPOON WITH BARB RIGHT",
      "aRIGHTWARDS HARPOON WITH BARB UP ABOVE RIGHTWARDS HARPOON WITH BARB DOWN",
      "aDOWNWARDS HARPOON WITH BARB LEFT BESIDE DOWNWARDS HARPOON WITH BARB RIGHT",
      "aLEFTWARDS HARPOON WITH BARB UP ABOVE RIGHTWARDS HARPOON WITH BARB UP",
      "e DOWN ABOVE RIGHTWARDS HARPOON WITH BARB DOWN",
      "aRIGHTWARDS HARPOON WITH BARB UP ABOVE LEFTWARDS HARPOON WITH BARB UP",
      "e DOWN ABOVE LEFTWARDS HARPOON WITH BARB DOWN",
      "aLEFTWARDS HARPOON WITH BARB UP ABOVE LONG DASHe DOWN BELOW LONG DASH",
      "aRIGHTWARDS HARPOON WITH BARB UP ABOVE LONG DASHe DOWN BELOW LONG DASH",
      "aUPWARDS HARPOON WITH BARB LEFT BESIDE DOWNWARDS HARPOON WITH BARB RIGHT",
      "aDOWNWARDS HARPOON WITH BARB LEFT BESIDE UPWARDS HARPOON WITH BARB RIGHT",
      "aRIGHT DOUBLE ARROW WITH ROUNDED HEADaEQUALS SIGN ABOVE RIGHTWARDS ARROW",
      "aTILDE OPERATOR ABOVE RIGHTWARDS ARROWaLEFTWARDS ARROW ABOVE TILDE OPERATOR",
      "aRIGHTWARDS ARROW ABOVE TILDE OPERATORd ALMOST EQUAL TOaLESS-THAN ABOVE LEFTWARDS ARROW",
      "aLEFTWARDS ARROW THROUGH LESS-THANaGREATER-THAN ABOVE RIGHTWARDS ARROW",
      "aSUBSET ABOVE RIGHTWARDS ARROWaLEFTWARDS ARROW THROUGH SUBSET",
      "aSUPERSET ABOVE LEFTWARDS ARROWaLEFT FISH TAILaRIGHT FISH TAILaUP FISH TAIL",
      "aDOWN FISH TAILaTRIPLE VERTICAL BAR DELIMITERaZ NOTATION SPOTc TYPE COLON",
      "aLEFT WHITE CURLY BRACKETaRIGHT WHITE CURLY BRACKETaLEFT WHITE PARENTHESIS",
      "aRIGHT WHITE PARENTHESISaZ NOTATION LEFT IMAGE BRACKETc RIGHT IMAGE BRACKET",
      "c LEFT BINDING BRACKETc RIGHT BINDING BRACKETaLEFT SQUARE BRACKET WITH UNDERBAR",
      "aRIGHT SQUARE BRACKET WITH UNDERBARaLEFT SQUARE BRACKET WITH TICK IN TOP CORNER",
      "aRIGHT SQUARE BRACKET WITH TICK IN BOTTOM CORNER",
      "aLEFT SQUARE BRACKET WITH TICK IN BOTTOM CORNER",
      "aRIGHT SQUARE BRACKET WITH TICK IN TOP CORNERaLEFT ANGLE BRACKET WITH DOT",
      "aRIGHT ANGLE BRACKET WITH DOTaLEFT ARC LESS-THAN BRACKETaRIGHT ARC GREATER-THAN BRACKET",
      "aDOUBLE LEFT ARC GREATER-THAN BRACKETb RIGHT ARC LESS-THAN BRACKET",
      "aLEFT BLACK TORTOISE SHELL BRACKETaRIGHT BLACK TORTOISE SHELL BRACKETaDOTTED FENCE",
      "aVERTICAL ZIGZAG LINEaMEASURED ANGLE OPENING LEFTaRIGHT ANGLE VARIANT WITH SQUARE",
      "aMEASURED RIGHT ANGLE WITH DOTaANGLE WITH S INSIDEaACUTE ANGLE",
      "aSPHERICAL ANGLE OPENING LEFTd UPaTURNED ANGLEaREVERSED ANGLEaANGLE WITH UNDERBAR",
      "aREVERSED ANGLE WITH UNDERBARaOBLIQUE ANGLE OPENING UPd DOWN",
      "aMEASURED ANGLE WITH OPEN ARM ENDING IN ARROW POINTING UP AND RIGHTl LEFT",
      "j DOWN AND RIGHTl LEFTj RIGHT AND UPj LEFT AND UPj RIGHT AND DOWNj LEFT AND DOWN",
      "aREVERSED EMPTY SETaEMPTY SET WITH OVERBARd SMALL CIRCLE ABOVEd RIGHT ARROW ABOVE",
      "d LEFT ARROW ABOVEaCIRCLE WITH HORIZONTAL BARaCIRCLED VERTICAL BARb PARALLEL",
      "b REVERSE SOLIDUSb PERPENDICULAR",
      "aCIRCLE DIVIDED BY HORIZONTAL BAR AND TOP HALF DIVIDED BY VERTICAL BAR",
      "b WITH SUPERIMPOSED XaCIRCLED ANTICLOCKWISE-ROTATED DIVISION SIGN",
      "aUP ARROW THROUGH CIRCLEaCIRCLED WHITE BULLETb BULLETb LESS-THANb GREATER-THAN",
      "aCIRCLE WITH SMALL CIRCLE TO THE RIGHTc TWO HORIZONTAL STROKES TO THE RIGHT",
      "aSQUARED RISING DIAGONAL SLASHb FALLING DIAGONAL SLASHb ASTERISKb SMALL CIRCLEb SQUARE",
      "aTWO JOINED SQUARESaTRIANGLE WITH DOT ABOVEc UNDERBARaS IN TRIANGLE",
      "aTRIANGLE WITH SERIFS AT BOTTOMaRIGHT TRIANGLE ABOVE LEFT TRIANGLE",
      "aLEFT TRIANGLE BESIDE VERTICAL BARaVERTICAL BAR BESIDE RIGHT TRIANGLE",
      "aBOWTIE WITH LEFT HALF BLACKc RIGHT HALF BLACKaBLACK BOWTIEaTIMES WITH LEFT HALF BLACK",
      "c RIGHT HALF BLACKaWHITE HOURGLASSaBLACK HOURGLASSaLEFT WIGGLY FENCEaRIGHT WIGGLY FENCE",
      "aLEFT DOUBLE WIGGLY FENCEaRIGHT DOUBLE WIGGLY FENCEaINCOMPLETE INFINITY",
      "aTIE OVER INFINITYaINFINITY NEGATED WITH VERTICAL BARaDOUBLE-ENDED MULTIMAP",
      "aSQUARE WITH CONTOURED OUTLINEaINCREASES ASaSHUFFLE PRODUCT",
      "aEQUALS SIGN AND SLANTED PARALLELf WITH TILDE ABOVEaIDENTICAL TO AND SLANTED PARALLEL",
      "aGLEICH STARKaTHERMODYNAMICaDOWN-POINTING TRIANGLE WITH LEFT HALF BLACK",
      "e RIGHT HALF BLACKaBLACK DIAMOND WITH DOWN ARROWb LOZENGEaWHITE CIRCLE WITH DOWN ARROW",
      "aBLACK CIRCLE WITH DOWN ARROWaERROR-BARRED WHITE SQUAREc BLACK SQUAREc WHITE DIAMOND",
      "c BLACK DIAMONDc WHITE CIRCLEc BLACK CIRCLEaRULE-DELAYEDaREVERSE SOLIDUS OPERATOR",
      "aSOLIDUS WITH OVERBARaREVERSE SOLIDUS WITH HORIZONTAL STROKEaBIG SOLIDUS",
      "b REVERSE SOLIDUSaDOUBLE PLUSaTRIPLE PLUSaLEFT-POINTING CURVED ANGLE BRACKET",
      "aRIGHT-POINTING CURVED ANGLE BRACKETaTINYaMINYaN-ARY CIRCLED DOT OPERATORd PLUS OPERATOR",
      "d TIMES OPERATORc UNION OPERATOR WITH DOTf PLUSc SQUARE INTERSECTION OPERATOR",
      "d UNION OPERATORaTWO LOGICAL AND OPERATORc OR OPERATORaN-ARY TIMES OPERATOR",
      "aMODULO TWO SUMaSUMMATION WITH INTEGRALaQUADRUPLE INTEGRAL OPERATORaFINITE PART INTEGRAL",
      "aINTEGRAL WITH DOUBLE STROKEb AVERAGE WITH SLASHaCIRCULATION FUNCTION",
      "aANTICLOCKWISE INTEGRATIONaLINE INTEGRATION WITH RECTANGULAR PATH AROUND POLE",
      "d SEMICIRCULAR PATH AROUND POLEc NOT INCLUDING THE POLEaINTEGRAL AROUND A POINT OPERATOR",
      "aQUATERNION INTEGRAL OPERATORaINTEGRAL WITH LEFTWARDS ARROW WITH HOOKc TIMES SIGN",
      "c INTERSECTIONc UNIONc OVERBARc UNDERBARaJOINaLARGE LEFT TRIANGLE OPERATOR",
      "aZ NOTATION SCHEMA COMPOSITIONd PIPINGd PROJECTIONaPLUS SIGN WITH SMALL CIRCLE ABOVE",
      "d CIRCUMFLEX ACCENT ABOVEd TILDE ABOVEd DOT BELOWd TILDE BELOWd SUBSCRIPT TWO",
      "d BLACK TRIANGLEaMINUS SIGN WITH COMMA ABOVEd DOT BELOWd FALLING DOTSd RISING DOTS",
      "aPLUS SIGN IN LEFT HALF CIRCLEd RIGHT HALF CIRCLEaVECTOR OR CROSS PRODUCT",
      "aMULTIPLICATION SIGN WITH DOT ABOVEd UNDERBARaSEMIDIRECT PRODUCT WITH BOTTOM CLOSED",
      "aSMASH PRODUCTaMULTIPLICATION SIGN IN LEFT HALF CIRCLEd RIGHT HALF CIRCLE",
      "aCIRCLED MULTIPLICATION SIGN WITH CIRCUMFLEX ACCENTaMULTIPLICATION SIGN IN DOUBLE CIRCLE",
      "aCIRCLED DIVISION SIGNaPLUS SIGN IN TRIANGLEaMINUS SIGN IN TRIANGLE",
      "aMULTIPLICATION SIGN IN TRIANGLEaINTERIOR PRODUCTaRIGHTHAND INTERIOR PRODUCT",
      "aZ NOTATION RELATIONAL COMPOSITIONaAMALGAMATION OR COPRODUCTaINTERSECTION WITH DOT",
      "aUNION WITH MINUS SIGNc OVERBARaINTERSECTION WITH OVERBARc LOGICAL AND",
      "aUNION WITH LOGICAL ORb ABOVE INTERSECTIONaINTERSECTION ABOVE UNION",
      "aUNION ABOVE BAR ABOVE INTERSECTIONaINTERSECTION ABOVE BAR ABOVE UNION",
      "aUNION BESIDE AND JOINED WITH UNIONaINTERSECTION BESIDE AND JOINED WITH INTERSECTION",
      "aCLOSED UNION WITH SERIFSb INTERSECTION WITH SERIFSaDOUBLE SQUARE INTERSECTIONc UNION",
      "aCLOSED UNION WITH SERIFS AND SMASH PRODUCTaLOGICAL AND WITH DOT ABOVE",
      "b OR WITH DOT ABOVEaDOUBLE LOGICAL ANDc ORaTWO INTERSECTING LOGICAL ANDd OR",
      "aSLOPING LARGE ORc ANDaLOGICAL OR OVERLAPPING LOGICAL ANDb AND WITH MIDDLE STEM",
      "b OR WITH MIDDLE STEMb AND WITH HORIZONTAL DASHb OR WITH HORIZONTAL DASH",
      "b AND WITH DOUBLE OVERBARd UNDERBARd DOUBLE UNDERBARaSMALL VEE WITH UNDERBAR",
      "aLOGICAL OR WITH DOUBLE OVERBARe UNDERBARaZ NOTATION DOMAIN ANTIRESTRICTION",
      "c RANGE ANTIRESTRICTIONaEQUALS SIGN WITH DOT BELOWaIDENTICAL WITH DOT ABOVE",
      "aTRIPLE HORIZONTAL BAR WITH DOUBLE VERTICAL STROKEe TRIPLE VERTICAL STROKE",
      "aTILDE OPERATOR WITH DOT ABOVEd RISING DOTSaSIMILAR MINUS SIMILAR",
      "aCONGRUENT WITH DOT ABOVEaEQUALS WITH ASTERISKaALMOST EQUAL TO WITH CIRCUMFLEX ACCENT",
      "aAPPROXIMATELY EQUAL OR EQUAL TOaEQUALS SIGN ABOVE PLUS SIGNaPLUS SIGN ABOVE EQUALS SIGN",
      "aEQUALS SIGN ABOVE TILDE OPERATORaDOUBLE COLON EQUALaTWO CONSECUTIVE EQUALS SIGNS",
      "aTHREE CONSECUTIVE EQUALS SIGNSaEQUALS SIGN WITH TWO DOTS ABOVE AND TWO DOTS BELOW",
      "aEQUIVALENT WITH FOUR DOTS ABOVEaLESS-THAN WITH CIRCLE INSIDE",
      "aGREATER-THAN WITH CIRCLE INSIDEaLESS-THAN WITH QUESTION MARK ABOVE",
      "aGREATER-THAN WITH QUESTION MARK ABOVEaLESS-THAN OR SLANTED EQUAL TO",
      "aGREATER-THAN OR SLANTED EQUAL TOaLESS-THAN OR SLANTED EQUAL TO WITH DOT INSIDE",
      "aGREATER-THAN OR SLANTED EQUAL TO WITH DOT INSIDE",
      "aLESS-THAN OR SLANTED EQUAL TO WITH DOT ABOVE",
      "aGREATER-THAN OR SLANTED EQUAL TO WITH DOT ABOVE",
      "aLESS-THAN OR SLANTED EQUAL TO WITH DOT ABOVE RIGHT",
      "aGREATER-THAN OR SLANTED EQUAL TO WITH DOT ABOVE LEFTaLESS-THAN OR APPROXIMATE",
      "aGREATER-THAN OR APPROXIMATEaLESS-THAN AND SINGLE-LINE NOT EQUAL TO",
      "aGREATER-THAN AND SINGLE-LINE NOT EQUAL TOaLESS-THAN AND NOT APPROXIMATE",
      "aGREATER-THAN AND NOT APPROXIMATEaLESS-THAN ABOVE DOUBLE-LINE EQUAL ABOVE GREATER-THAN",
      "aGREATER-THAN ABOVE DOUBLE-LINE EQUAL ABOVE LESS-THANaLESS-THAN ABOVE SIMILAR OR EQUAL",
      "aGREATER-THAN ABOVE SIMILAR OR EQUALaLESS-THAN ABOVE SIMILAR ABOVE GREATER-THAN",
      "aGREATER-THAN ABOVE SIMILAR ABOVE LESS-THAN",
      "aLESS-THAN ABOVE GREATER-THAN ABOVE DOUBLE-LINE EQUAL",
      "aGREATER-THAN ABOVE LESS-THAN ABOVE DOUBLE-LINE EQUAL",
      "aLESS-THAN ABOVE SLANTED EQUAL ABOVE GREATER-THAN ABOVE SLANTED EQUAL",
      "aGREATER-THAN ABOVE SLANTED EQUAL ABOVE LESS-THAN ABOVE SLANTED EQUAL",
      "aSLANTED EQUAL TO OR LESS-THANe GREATER-THANe LESS-THAN WITH DOT INSIDE",
      "e GREATER-THAN WITH DOT INSIDEaDOUBLE-LINE EQUAL TO OR LESS-THANf GREATER-THAN",
      "c SLANTED EQUAL TO OR LESS-THANg GREATER-THANaSIMILAR OR LESS-THANc GREATER-THAN",
      "b ABOVE LESS-THAN ABOVE EQUALS SIGNc GREATER-THAN ABOVE EQUALS SIGN",
      "aDOUBLE NESTED LESS-THANc GREATER-THANc LESS-THAN WITH UNDERBAR",
      "aGREATER-THAN OVERLAPPING LESS-THANc BESIDE LESS-THANaLESS-THAN CLOSED BY CURVE",
      "aGREATER-THAN CLOSED BY CURVEaLESS-THAN CLOSED BY CURVE ABOVE SLANTED EQUAL",
      "aGREATER-THAN CLOSED BY CURVE ABOVE SLANTED EQUALaSMALLER THANaLARGER THAN",
      "aSMALLER THAN OR EQUAL TOaLARGER THAN OR EQUAL TOaEQUALS SIGN WITH BUMPY ABOVE",
      "aPRECEDES ABOVE SINGLE-LINE EQUALS SIGNaSUCCEEDS ABOVE SINGLE-LINE EQUALS SIGN",
      "aPRECEDES ABOVE SINGLE-LINE NOT EQUAL TOaSUCCEEDS ABOVE SINGLE-LINE NOT EQUAL TO",
      "aPRECEDES ABOVE EQUALS SIGNaSUCCEEDS ABOVE EQUALS SIGNaPRECEDES ABOVE NOT EQUAL TO",
      "aSUCCEEDS ABOVE NOT EQUAL TOaPRECEDES ABOVE ALMOST EQUAL TO",
      "aSUCCEEDS ABOVE ALMOST EQUAL TOaPRECEDES ABOVE NOT ALMOST EQUAL TO",
      "aSUCCEEDS ABOVE NOT ALMOST EQUAL TOaDOUBLE PRECEDESb SUCCEEDSaSUBSET WITH DOT",
      "aSUPERSET WITH DOTaSUBSET WITH PLUS SIGN BELOWaSUPERSET WITH PLUS SIGN BELOW",
      "aSUBSET WITH MULTIPLICATION SIGN BELOWaSUPERSET WITH MULTIPLICATION SIGN BELOW",
      "aSUBSET OF OR EQUAL TO WITH DOT ABOVEaSUPERSET OF OR EQUAL TO WITH DOT ABOVE",
      "aSUBSET OF ABOVE EQUALS SIGNaSUPERSET OF ABOVE EQUALS SIGN",
      "aSUBSET OF ABOVE TILDE OPERATORaSUPERSET OF ABOVE TILDE OPERATOR",
      "aSUBSET OF ABOVE ALMOST EQUAL TOaSUPERSET OF ABOVE ALMOST EQUAL TO",
      "aSUBSET OF ABOVE NOT EQUAL TOaSUPERSET OF ABOVE NOT EQUAL TO",
      "aSQUARE LEFT OPEN BOX OPERATORb RIGHT OPEN BOX OPERATORaCLOSED SUBSETb SUPERSET",
      "b SUBSET OR EQUAL TOb SUPERSET OR EQUAL TOaSUBSET ABOVE SUPERSETaSUPERSET ABOVE SUBSET",
      "aSUBSET ABOVE SUBSETaSUPERSET ABOVE SUPERSETb BESIDE SUBSET",
      "c AND JOINED BY DASH WITH SUBSETaELEMENT OF OPENING DOWNWARDSaPITCHFORK WITH TEE TOP",
      "aTRANSVERSAL INTERSECTIONaFORKINGaNONFORKINGaSHORT LEFT TACKb DOWN TACKb UP TACK",
      "aPERPENDICULAR WITH SaVERTICAL BAR TRIPLE RIGHT TURNSTILE",
      "aDOUBLE VERTICAL BAR LEFT TURNSTILEaVERTICAL BAR DOUBLE LEFT TURNSTILE",
      "aDOUBLE VERTICAL BAR DOUBLE LEFT TURNSTILEaLONG DASH FROM LEFT MEMBER OF DOUBLE VERTICAL",
      "aSHORT DOWN TACK WITH OVERBARb UP TACK WITH UNDERBARd ABOVE SHORT DOWN TACK",
      "aDOUBLE DOWN TACKb UP TACKb STROKE NOT SIGNaREVERSED DOUBLE STROKE NOT SIGN",
      "aDOES NOT DIVIDE WITH REVERSED NEGATION SLASHaVERTICAL LINE WITH CIRCLE ABOVEe BELOW",
      "aDOWN TACK WITH CIRCLE BELOWaPARALLEL WITH HORIZONTAL STROKEc TILDE OPERATOR",
      "aTRIPLE VERTICAL BAR BINARY RELATIONd WITH HORIZONTAL STROKEb COLON OPERATOR",
      "b NESTED LESS-THANc GREATER-THANaDOUBLE-LINE SLANTED LESS-THAN OR EQUAL TO",
      "d GREATER-THAN OR EQUAL TOaTRIPLE SOLIDUS BINARY RELATION",
      "aLARGE TRIPLE VERTICAL BAR OPERATORaDOUBLE SOLIDUS OPERATORaWHITE VERTICAL BAR",
      "aN-ARY WHITE VERTICAL BARaNORTH EAST WHITE ARROWb WEST WHITE ARROW",
      "aSOUTH EAST WHITE ARROWb WEST WHITE ARROWaLEFT RIGHT WHITE ARROWaLEFTWARDS BLACK ARROW",
      "aUPWARDS BLACK ARROWaDOWNWARDS BLACK ARROWaNORTH EAST BLACK ARROWb WEST BLACK ARROW",
      "aSOUTH EAST BLACK ARROWb WEST BLACK ARROWaLEFT RIGHT BLACK ARROWaUP DOWN BLACK ARROW",
      "aRIGHTWARDS ARROW WITH TIP DOWNWARDSe UPWARDSaLEFTWARDS ARROW WITH TIP DOWNWARDS",
      "e UPWARDSaSQUARE WITH TOP HALF BLACKc BOTTOM HALF BLACKc UPPER RIGHT DIAGONAL HALF BLACK",
      "c LOWER LEFT DIAGONAL HALF BLACKaDIAMOND WITH LEFT HALF BLACKc RIGHT HALF BLACK",
      "c TOP HALF BLACKc BOTTOM HALF BLACKaDOTTED SQUAREaBLACK LARGE SQUAREaWHITE LARGE SQUARE",
      "aBLACK VERY SMALL SQUAREaWHITE VERY SMALL SQUAREaBLACK PENTAGONaWHITE PENTAGONb HEXAGON",
      "aBLACK HEXAGONaHORIZONTAL BLACK HEXAGONaBLACK LARGE CIRCLEb MEDIUM DIAMOND",
      "aWHITE MEDIUM DIAMONDaBLACK MEDIUM LOZENGEaWHITE MEDIUM LOZENGEaBLACK SMALL DIAMOND",
      "c LOZENGEaWHITE SMALL LOZENGEaBLACK HORIZONTAL ELLIPSEaWHITE HORIZONTAL ELLIPSE",
      "aBLACK VERTICAL ELLIPSEaWHITE VERTICAL ELLIPSEaLEFT ARROW WITH SMALL CIRCLE",
      "aTHREE LEFTWARDS ARROWSaLEFT ARROW WITH CIRCLED PLUSaLONG LEFTWARDS SQUIGGLE ARROW",
      "aLEFTWARDS TWO-HEADED ARROW WITH VERTICAL STROKEf DOUBLE VERTICAL STROKEe FROM BAR",
      "d TRIPLE DASH ARROWb ARROW WITH DOTTED STEMd TAIL WITH VERTICAL STROKE",
      "f DOUBLE VERTICAL STROKEb TWO-HEADED ARROW WITH TAILg WITH VERTICAL STROKE",
      "h DOUBLE VERTICAL STROKEb ARROW THROUGH XaWAVE ARROW POINTING DIRECTLY LEFT",
      "aEQUALS SIGN ABOVE LEFTWARDS ARROWaREVERSE TILDE OPERATOR ABOVE LEFTWARDS ARROW",
      "aLEFTWARDS ARROW ABOVE REVERSE ALMOST EQUAL TOaRIGHTWARDS ARROW THROUGH GREATER-THAN",
      "d SUPERSETaLEFTWARDS QUADRUPLE ARROWaRIGHTWARDS QUADRUPLE ARROW",
      "aREVERSE TILDE OPERATOR ABOVE RIGHTWARDS ARROW",
      "aRIGHTWARDS ARROW ABOVE REVERSE ALMOST EQUAL TOaTILDE OPERATOR ABOVE LEFTWARDS ARROW",
      "aLEFTWARDS ARROW ABOVE ALMOST EQUAL TOd REVERSE TILDE OPERATOR",
      "aRIGHTWARDS ARROW ABOVE REVERSE TILDE OPERATORaDOWNWARDS TRIANGLE-HEADED ZIGZAG ARROW",
      "aSHORT SLANTED NORTH ARROWb BACKSLANTED SOUTH ARROWaWHITE MEDIUM STARaBLACK SMALL STAR",
      "aWHITE SMALL STARaBLACK RIGHT-POINTING PENTAGONaWHITE RIGHT-POINTING PENTAGON",
      "aHEAVY LARGE CIRCLEb OVAL WITH OVAL INSIDEb CIRCLE WITH CIRCLE INSIDEcb CIRCLED SALTIRE",
      "aSLANTED NORTH ARROW WITH HOOKED HEADaBACKSLANTED SOUTH ARROW WITH HOOKED TAIL",
      "aSLANTED NORTH ARROW WITH HORIZONTAL TAILaBACKSLANTED SOUTH ARROW WITH HORIZONTAL TAIL",
      "aBENT ARROW POINTING DOWNWARDS THEN NORTH EAST",
      "aSHORT BENT ARROW POINTING DOWNWARDS THEN NORTH EASTaLEFTWARDS TRIANGLE-HEADED ARROW",
      "aUPWARDS TRIANGLE-HEADED ARROWaRIGHTWARDS TRIANGLE-HEADED ARROW",
      "aDOWNWARDS TRIANGLE-HEADED ARROWaLEFT RIGHT TRIANGLE-HEADED ARROW",
      "aUP DOWN TRIANGLE-HEADED ARROWaNORTH WEST TRIANGLE-HEADED ARROW",
      "b EAST TRIANGLE-HEADED ARROWaSOUTH EAST TRIANGLE-HEADED ARROW",
      "b WEST TRIANGLE-HEADED ARROWaLEFTWARDS TRIANGLE-HEADED DASHED ARROW",
      "aUPWARDS TRIANGLE-HEADED DASHED ARROWaRIGHTWARDS TRIANGLE-HEADED DASHED ARROW",
      "aDOWNWARDS TRIANGLE-HEADED DASHED ARROWaCLOCKWISE TRIANGLE-HEADED OPEN CIRCLE ARROW",
      "aANTICLOCKWISE TRIANGLE-HEADED OPEN CIRCLE ARROWaLEFTWARDS TRIANGLE-HEADED ARROW TO BAR",
      "aUPWARDS TRIANGLE-HEADED ARROW TO BARaRIGHTWARDS TRIANGLE-HEADED ARROW TO BAR",
      "aDOWNWARDS TRIANGLE-HEADED ARROW TO BAR"]),
   (0x2B76, ["aNORTH WEST TRIANGLE-HEADED ARROW TO BARb EAST TRIANGLE-HEADED ARROW TO BAR",
      "aSOUTH EAST TRIANGLE-HEADED ARROW TO BARb WEST TRIANGLE-HEADED ARROW TO BAR",
      "aLEFTWARDS TRIANGLE-HEADED ARROW WITH DOUBLE HORIZONTAL STROKE",
      "aUPWARDS TRIANGLE-HEADED ARROW WITH DOUBLE HORIZONTAL STROKE",
      "aRIGHTWARDS TRIANGLE-HEADED ARROW WITH DOUBLE HORIZONTAL STROKE",
      "aDOWNWARDS TRIANGLE-HEADED ARROW WITH DOUBLE HORIZONTAL STROKEaHORIZONTAL TAB KEY",
      "aVERTICAL TAB KEYaLEFTWARDS TRIANGLE-HEADED ARROW OVER RIGHTWARDS TRIANGLE-HEADED ARROW",
      "aUPWARDS TRIANGLE-HEADED ARROW LEFTWARDS OF DOWNWARDS TRIANGLE-HEADED ARROW",
      "aRIGHTWARDS TRIANGLE-HEADED ARROW OVER LEFTWARDS TRIANGLE-HEADED ARROW",
      "aDOWNWARDS TRIANGLE-HEADED ARROW LEFTWARDS OF UPWARDS TRIANGLE-HEADED ARROW",
      "aLEFTWARDS TRIANGLE-HEADED PAIRED ARROWSaUPWARDS TRIANGLE-HEADED PAIRED ARROWS",
      "aRIGHTWARDS TRIANGLE-HEADED PAIRED ARROWSaDOWNWARDS TRIANGLE-HEADED PAIRED ARROWS",
      "aLEFTWARDS BLACK CIRCLED WHITE ARROWaUPWARDS BLACK CIRCLED WHITE ARROW",
      "aRIGHTWARDS BLACK CIRCLED WHITE ARROWaDOWNWARDS BLACK CIRCLED WHITE ARROW",
      "aANTICLOCKWISE TRIANGLE-HEADED RIGHT U-SHAPED ARROWd BOTTOM U-SHAPED ARROW",
      "d LEFT U-SHAPED ARROWd TOP U-SHAPED ARROWaRETURN LEFTb RIGHTaNEWLINE LEFTb RIGHT",
      "aFOUR CORNER ARROWS CIRCLING ANTICLOCKWISEaRIGHTWARDS BLACK ARROW"]),
   (0x2B97, ["aSYMBOL FOR TYPE A ELECTRONICS",
      "aTHREE-D TOP-LIGHTED LEFTWARDS EQUILATERAL ARROWHEAD",
      "c RIGHT-LIGHTED UPWARDS EQUILATERAL ARROWHEAD",
      "c TOP-LIGHTED RIGHTWARDS EQUILATERAL ARROWHEAD",
      "c LEFT-LIGHTED DOWNWARDS EQUILATERAL ARROWHEADaBLACK LEFTWARDS EQUILATERAL ARROWHEAD",
      "b UPWARDS EQUILATERAL ARROWHEADb RIGHTWARDS EQUILATERAL ARROWHEAD",
      "b DOWNWARDS EQUILATERAL ARROWHEAD",
      "aDOWNWARDS TRIANGLE-HEADED ARROW WITH LONG TIP LEFTWARDSh RIGHTWARDS",
      "aUPWARDS TRIANGLE-HEADED ARROW WITH LONG TIP LEFTWARDSh RIGHTWARDS",
      "aLEFTWARDS TRIANGLE-HEADED ARROW WITH LONG TIP UPWARDS",
      "aRIGHTWARDS TRIANGLE-HEADED ARROW WITH LONG TIP UPWARDS",
      "aLEFTWARDS TRIANGLE-HEADED ARROW WITH LONG TIP DOWNWARDS",
      "aRIGHTWARDS TRIANGLE-HEADED ARROW WITH LONG TIP DOWNWARDS",
      "aBLACK CURVED DOWNWARDS AND LEFTWARDS ARROWe RIGHTWARDS ARROW",
      "c UPWARDS AND LEFTWARDS ARROWe RIGHTWARDS ARROWc LEFTWARDS AND UPWARDS ARROW",
      "c RIGHTWARDS AND UPWARDS ARROWc LEFTWARDS AND DOWNWARDS ARROW",
      "c RIGHTWARDS AND DOWNWARDS ARROWaRIBBON ARROW DOWN LEFTd RIGHTc UP LEFTd RIGHTc LEFT UP",
      "c RIGHT UPc LEFT DOWNc RIGHT DOWNaUPWARDS WHITE ARROW FROM BAR WITH HORIZONTAL BAR",
      "aUP ARROWHEAD IN A RECTANGLE BOXaOVERLAPPING WHITE SQUARESc AND BLACK SQUARES",
      "b BLACK SQUARESaBALLOT BOX WITH LIGHT XaCIRCLED Xb BOLD XaBLACK SQUARE CENTRED",
      "b DIAMOND CENTREDaTURNED BLACK PENTAGONaHORIZONTAL BLACK OCTAGONaBLACK OCTAGON",
      "b MEDIUM UP-POINTING TRIANGLE CENTREDc DOWN-POINTING TRIANGLE CENTRED",
      "c LEFT-POINTING TRIANGLE CENTREDc RIGHT-POINTING TRIANGLE CENTREDaNEPTUNE FORM TWO",
      "aTOP HALF BLACK CIRCLEaBOTTOM HALF BLACK CIRCLEaLIGHT FOUR POINTED BLACK CUSP",
      "aROTATED LIGHT FOUR POINTED BLACK CUSPaWHITE FOUR POINTED CUSP",
      "aROTATED WHITE FOUR POINTED CUSPaSQUARE POSITION INDICATORaUNCERTAINTY SIGNaGROUP MARK",
      "aPLUTO FORM TWOc THREEc FOURc FIVEaTRANSPLUTOaPROSERPINAaASTRAEAaHYGIEAaPHOLUSaNESSUS",
      "aWHITE MOON SELENAaBLACK DIAMOND ON CROSSaTRUE LIGHT MOON ARTAaCUPIDOaHADESaZEUSaKRONOS",
      "aAPOLLONaADMETOSaVULCANUSaPOSEIDONaLEFT HALF BLACK STARaRIGHT HALF BLACK STAR",
      "aSTAR WITH LEFT HALF BLACKc RIGHT HALF BLACK",
      "aLEFTWARDS TWO-HEADED ARROW WITH TRIANGLE ARROWHEADS",
      "aUPWARDS TWO-HEADED ARROW WITH TRIANGLE ARROWHEADS",
      "aRIGHTWARDS TWO-HEADED ARROW WITH TRIANGLE ARROWHEADS",
      "aDOWNWARDS TWO-HEADED ARROW WITH TRIANGLE ARROWHEADSaERIS FORM ONEc TWOaSEDNA",
      "aRUSSIAN ASTROLOGICAL SYMBOL VIGINTILEd NOVILEd QUINTILEd BINOVILEd SENTAGONd TREDECILE",
      "aEQUALS SIGN WITH INFINITY BELOWaUNITED SYMBOLaSEPARATED SYMBOLaDOUBLED SYMBOL",
      "aPASSED SYMBOLaREVERSED RIGHT ANGLEaHELLSCHREIBER PAUSE SYMBOL",
      "aGLAGOLITIC CAPITAL LETTER AZUd BUKYd VEDEd GLAGOLId DOBROd YESTUd ZHIVETEd DZELO",
      "d ZEMLJAd IZHEd INITIAL IZHEd Id DJERVId KAKOd LJUDIJEd MYSLITEd NASHId ONUd POKOJI",
      "d RITSId SLOVOd TVRIDOd UKUd FRITUd HERUd OTUd PEd SHTAd TSId CHRIVId SHAd YERUd YERI",
      "d YATId SPIDERY HAd YUd SMALL YUSf WITH TAILd YOd IOTATED SMALL YUSd BIG YUS",
      "d IOTATED BIG YUSd FITAd IZHITSAd SHTAPICd TROKUTASTI Ad LATINATE MYSLITE",
      "d CAUDATE CHRIVIb SMALL LETTER AZUd BUKYd VEDEd GLAGOLId DOBROd YESTUd ZHIVETEd DZELO",
      "d ZEMLJAd IZHEd INITIAL IZHEd Id DJERVId KAKOd LJUDIJEd MYSLITEd NASHId ONUd POKOJI",
      "d RITSId SLOVOd TVRIDOd UKUd FRITUd HERUd OTUd PEd SHTAd TSId CHRIVId SHAd YERUd YERI",
      "d YATId SPIDERY HAd YUd SMALL YUSf WITH TAILd YOd IOTATED SMALL YUSd BIG YUS",
      "d IOTATED BIG YUSd FITAd IZHITSAd SHTAPICd TROKUTASTI Ad LATINATE MYSLITE",
      "d CAUDATE CHRIVIaLATIN CAPITAL LETTER L WITH DOUBLE BARb SMALL LETTER L WITH DOUBLE BAR",
      "b CAPITAL LETTER L WITH MIDDLE TILDEd P WITH STROKEd R WITH TAIL",
      "b SMALL LETTER A WITH STROKEd T WITH DIAGONAL STROKEb CAPITAL LETTER H WITH DESCENDER",
      "b SMALL LETTER H WITH DESCENDERb CAPITAL LETTER K WITH DESCENDER",
      "b SMALL LETTER K WITH DESCENDERb CAPITAL LETTER Z WITH DESCENDER",
      "b SMALL LETTER Z WITH DESCENDERb CAPITAL LETTER ALPHAd M WITH HOOKd TURNED Ae ALPHA",
      "b SMALL LETTER V WITH RIGHT HOOKb CAPITAL LETTER W WITH HOOKb SMALL LETTER W WITH HOOK",
      "d V WITH CURLb CAPITAL LETTER HALF Hb SMALL LETTER HALF Hd TAILLESS PHId E WITH NOTCH",
      "d TURNED R WITH TAILd O WITH LOW RING INSIDEb LETTER SMALL CAPITAL TURNED E",
      "b SUBSCRIPT SMALL LETTER JaMODIFIER LETTER CAPITAL V",
      "aLATIN CAPITAL LETTER S WITH SWASH TAILd Z WITH SWASH TAILaCOPTIC CAPITAL LETTER ALFA",
      "b SMALL LETTER ALFAb CAPITAL LETTER VIDAb SMALL LETTER VIDAb CAPITAL LETTER GAMMA",
      "b SMALL LETTER GAMMAb CAPITAL LETTER DALDAb SMALL LETTER DALDAb CAPITAL LETTER EIE",
      "b SMALL LETTER EIEb CAPITAL LETTER SOUb SMALL LETTER SOUb CAPITAL LETTER ZATA",
      "b SMALL LETTER ZATAb CAPITAL LETTER HATEb SMALL LETTER HATEb CAPITAL LETTER THETHE",
      "b SMALL LETTER THETHEb CAPITAL LETTER IAUDAb SMALL LETTER IAUDAb CAPITAL LETTER KAPA",
      "b SMALL LETTER KAPAb CAPITAL LETTER LAULAb SMALL LETTER LAULAb CAPITAL LETTER MI",
      "b SMALL LETTER MIb CAPITAL LETTER NIb SMALL LETTER NIb CAPITAL LETTER KSI",
      "b SMALL LETTER KSIb CAPITAL LETTER Ob SMALL LETTER Ob CAPITAL LETTER PIb SMALL LETTER PI",
      "b CAPITAL LETTER ROb SMALL LETTER ROb CAPITAL LETTER SIMAb SMALL LETTER SIMA",
      "b CAPITAL LETTER TAUb SMALL LETTER TAUb CAPITAL LETTER UAb SMALL LETTER UA",
      "b CAPITAL LETTER FIb SMALL LETTER FIb CAPITAL LETTER KHIb SMALL LETTER KHI",
      "b CAPITAL LETTER PSIb SMALL LETTER PSIb CAPITAL LETTER OOUb SMALL LETTER OOU",
      "b CAPITAL LETTER DIALECT-P ALEFb SMALL LETTER DIALECT-P ALEF",
      "b CAPITAL LETTER OLD COPTIC AINb SMALL LETTER OLD COPTIC AIN",
      "b CAPITAL LETTER CRYPTOGRAMMIC EIEb SMALL LETTER CRYPTOGRAMMIC EIE",
      "b CAPITAL LETTER DIALECT-P KAPAb SMALL LETTER DIALECT-P KAPA",
      "b CAPITAL LETTER DIALECT-P NIb SMALL LETTER DIALECT-P NI",
      "b CAPITAL LETTER CRYPTOGRAMMIC NIb SMALL LETTER CRYPTOGRAMMIC NI",
      "b CAPITAL LETTER OLD COPTIC OOUb SMALL LETTER OLD COPTIC OOUb CAPITAL LETTER SAMPI",
      "b SMALL LETTER SAMPIb CAPITAL LETTER CROSSED SHEIb SMALL LETTER CROSSED SHEI",
      "b CAPITAL LETTER OLD COPTIC SHEIb SMALL LETTER OLD COPTIC SHEI",
      "b CAPITAL LETTER OLD COPTIC ESHb SMALL LETTER OLD COPTIC ESH",
      "b CAPITAL LETTER AKHMIMIC KHEIb SMALL LETTER AKHMIMIC KHEI",
      "b CAPITAL LETTER DIALECT-P HORIb SMALL LETTER DIALECT-P HORI",
      "b CAPITAL LETTER OLD COPTIC HORIb SMALL LETTER OLD COPTIC HORI",
      "b CAPITAL LETTER OLD COPTIC HAb SMALL LETTER OLD COPTIC HAb CAPITAL LETTER L-SHAPED HA",
      "b SMALL LETTER L-SHAPED HAb CAPITAL LETTER OLD COPTIC HEIb SMALL LETTER OLD COPTIC HEI",
      "b CAPITAL LETTER OLD COPTIC HATb SMALL LETTER OLD COPTIC HAT",
      "b CAPITAL LETTER OLD COPTIC GANGIAb SMALL LETTER OLD COPTIC GANGIA",
      "b CAPITAL LETTER OLD COPTIC DJAb SMALL LETTER OLD COPTIC DJA",
      "b CAPITAL LETTER OLD COPTIC SHIMAb SMALL LETTER OLD COPTIC SHIMA",
      "b CAPITAL LETTER OLD NUBIAN SHIMAb SMALL LETTER OLD NUBIAN SHIMA",
      "b CAPITAL LETTER OLD NUBIAN NGIb SMALL LETTER OLD NUBIAN NGI",
      "b CAPITAL LETTER OLD NUBIAN NYIb SMALL LETTER OLD NUBIAN NYI",
      "b CAPITAL LETTER OLD NUBIAN WAUb SMALL LETTER OLD NUBIAN WAUb SYMBOL KAIc MI ROc PI RO",
      "c STAUROSc TAU ROc KHI ROc SHIMA SIMAb CAPITAL LETTER CRYPTOGRAMMIC SHEI",
      "b SMALL LETTER CRYPTOGRAMMIC SHEIb CAPITAL LETTER CRYPTOGRAMMIC GANGIA",
      "b SMALL LETTER CRYPTOGRAMMIC GANGIAb COMBINING NI ABOVEc SPIRITUS ASPERd LENIS",
      "b CAPITAL LETTER BOHAIRIC KHEIb SMALL LETTER BOHAIRIC KHEI"]),
   (0x2CF9, ["aCOPTIC OLD NUBIAN FULL STOPd DIRECT QUESTION MARKd INDIRECT QUESTION MARK",
      "d VERSE DIVIDERb FRACTION ONE HALFb FULL STOPb MORPHOLOGICAL DIVIDER",
      "aGEORGIAN SMALL LETTER ANd BANd GANd DONd ENd VINd ZENd TANd INd KANd LASd MANd NARd ON",
      "d PARd ZHARd RAEd SANd TARd UNd PHARd KHARd GHANd QARd SHINd CHINd CANd JILd CILd CHAR",
      "d XANd JHANd HAEd HEd HIEd WEd HARd HOE"]),
   (0x2D27, ["aGEORGIAN SMALL LETTER YN"]),
   (0x2D2D, ["aGEORGIAN SMALL LETTER AEN"]),
   (0x2D30, ["aTIFINAGH LETTER YAc YABc YABHc YAGc YAGHHc BERBER ACADEMY YAJc YAJc YADc YADH",
      "c YADDc YADDHc YEYc YAFc YAKc TUAREG YAKc YAKHHc YAHc BERBER ACADEMY YAHc TUAREG YAH",
      "c YAHHc YAAc YAKHc TUAREG YAKHc YAQc TUAREG YAQc YIc YAZHc AHAGGAR YAZHc TUAREG YAZH",
      "c YALc YAMc YANc TUAREG YAGNd YANGc YAPc YUc YARc YARRc YAGHc TUAREG YAGHc AYER YAGH",
      "c YASc YASSc YASHc YATc YATHc YACHc YATTc YAVc YAWc YAYc YAZc TAWELLEMET YAZc YAZZc YE",
      "c YO"]),
   (0x2D6F, ["aTIFINAGH MODIFIER LETTER LABIALIZATION MARKb SEPARATOR MARK"]),
   (0x2D7F, ["aTIFINAGH CONSONANT JOINERaETHIOPIC SYLLABLE LOAc MOAc ROAc SOAc SHOAc BOAc TOA",
      "c COAc NOAc NYOAc GLOTTAL OAc ZOAc DOAc DDOAc JOAc THOAc CHOAc PHOAc POAc GGWAc GGWI",
      "c GGWEEc GGWE"]),
   (0x2DA0, ["aETHIOPIC SYLLABLE SSAc SSUc SSIc SSAAc SSEEc SSEc SSO"]),
   (0x2DA8, ["aETHIOPIC SYLLABLE CCAc CCUc CCIc CCAAc CCEEc CCEc CCO"]),
   (0x2DB0, ["aETHIOPIC SYLLABLE ZZAc ZZUc ZZIc ZZAAc ZZEEc ZZEc ZZO"]),
   (0x2DB8, ["aETHIOPIC SYLLABLE CCHAc CCHUc CCHIc CCHAAc CCHEEc CCHEc CCHO"]),
   (0x2DC0, ["aETHIOPIC SYLLABLE QYAc QYUc QYIc QYAAc QYEEc QYEc QYO"]),
   (0x2DC8, ["aETHIOPIC SYLLABLE KYAc KYUc KYIc KYAAc KYEEc KYEc KYO"]),
   (0x2DD0, ["aETHIOPIC SYLLABLE XYAc XYUc XYIc XYAAc XYEEc XYEc XYO"]),
   (0x2DD8, ["aETHIOPIC SYLLABLE GYAc GYUc GYIc GYAAc GYEEc GYEc GYO"]),
   (0x2DE0, ["aCOMBINING CYRILLIC LETTER BEd VEd GHEd DEd ZHEd ZEd KAd ELd EMd ENd Od PEd ER",
      "d ESd TEd HAd TSEd CHEd SHAd SHCHAd FITAd ES-TEd Ad IEd DJERVd MONOGRAPH UKd YATd YU",
      "d IOTIFIED Ad LITTLE YUSd BIG YUSd IOTIFIED BIG YUSaRIGHT ANGLE SUBSTITUTION MARKER",
      "c DOTTED SUBSTITUTION MARKERaLEFT SUBSTITUTION BRACKETaRIGHT SUBSTITUTION BRACKET",
      "aLEFT DOTTED SUBSTITUTION BRACKETaRIGHT DOTTED SUBSTITUTION BRACKET",
      "aRAISED INTERPOLATION MARKERb DOTTED INTERPOLATION MARKERaDOTTED TRANSPOSITION MARKER",
      "aLEFT TRANSPOSITION BRACKETaRIGHT TRANSPOSITION BRACKETaRAISED SQUARE",
      "aLEFT RAISED OMISSION BRACKETaRIGHT RAISED OMISSION BRACKETaEDITORIAL CORONIS",
      "aPARAGRAPHOSaFORKED PARAGRAPHOSaREVERSED FORKED PARAGRAPHOSaHYPODIASTOLEaDOTTED OBELOS",
      "aDOWNWARDS ANCORAaUPWARDS ANCORAaDOTTED RIGHT-POINTING ANGLEaDOUBLE OBLIQUE HYPHEN",
      "aINVERTED INTERROBANGaPALM BRANCHaHYPHEN WITH DIAERESISaTILDE WITH RING ABOVE",
      "aLEFT LOW PARAPHRASE BRACKETaRIGHT LOW PARAPHRASE BRACKETaTILDE WITH DOT ABOVEd BELOW",
      "aLEFT VERTICAL BAR WITH QUILLaRIGHT VERTICAL BAR WITH QUILLaTOP LEFT HALF BRACKET",
      "b RIGHT HALF BRACKETaBOTTOM LEFT HALF BRACKETb RIGHT HALF BRACKET",
      "aLEFT SIDEWAYS U BRACKETaRIGHT SIDEWAYS U BRACKETaLEFT DOUBLE PARENTHESIS",
      "aRIGHT DOUBLE PARENTHESISaTWO DOTS OVER ONE DOT PUNCTUATION",
      "aONE DOT OVER TWO DOTS PUNCTUATIONaSQUARED FOUR DOT PUNCTUATIONaFIVE DOT MARK",
      "aREVERSED QUESTION MARKaVERTICAL TILDEaRING POINTaWORD SEPARATOR MIDDLE DOTaTURNED COMMA",
      "aRAISED DOTb COMMAaTURNED SEMICOLONaDAGGER WITH LEFT GUARDc RIGHT GUARDaTURNED DAGGER",
      "aTOP HALF SECTION SIGNaTWO-EM DASHaTHREE-EM DASHaSTENOGRAPHIC FULL STOP",
      "aVERTICAL SIX DOTSaWIGGLY VERTICAL LINEaCAPITULUMaDOUBLE HYPHENaREVERSED COMMA",
      "aDOUBLE LOW-REVERSED-9 QUOTATION MARKaDASH WITH LEFT UPTURNaDOUBLE SUSPENSION MARK",
      "aINVERTED LOW KAVYKAd WITH KAVYKA ABOVEaLOW KAVYKAc WITH DOTaDOUBLE STACKED COMMA",
      "aDOTTED SOLIDUSaTRIPLE DAGGERaMEDIEVAL COMMAaPARAGRAPHUS MARKaPUNCTUS ELEVATUS MARK",
      "aCORNISH VERSE DIVIDERaCROSS PATTY WITH RIGHT CROSSBARd LEFT CROSSBAR",
      "aTIRONIAN SIGN CAPITAL ETaMEDIEVAL EXCLAMATION MARKb QUESTION MARK",
      "aLEFT SQUARE BRACKET WITH STROKEaRIGHT SQUARE BRACKET WITH STROKE",
      "aLEFT SQUARE BRACKET WITH DOUBLE STROKEaRIGHT SQUARE BRACKET WITH DOUBLE STROKE",
      "aTOP HALF LEFT PARENTHESISc RIGHT PARENTHESISaBOTTOM HALF LEFT PARENTHESIS",
      "c RIGHT PARENTHESISaOBLIQUE HYPHEN"]),
   (0x2E80, ["aCJK RADICAL REPEATc CLIFFc SECOND ONEd TWOd THREEc PERSONc BOXc TABLEc KNIFE ONE",
      "d TWOc DIVINATIONc SEALc SMALL ONEd TWOc LAME ONEd TWOd THREEd FOURc SNAKEc THREAD",
      "c SNOUT ONEd TWOc HEART ONEd TWOc HANDc RAP"]),
   (0x2E9B, ["aCJK RADICAL CHOKEc SUNc MOONc DEATHc MOTHERc CIVILIANc WATER ONEd TWOc FIRE",
      "c PAW ONEd TWOc SIMPLIFIED HALF TREE TRUNKc COWc DOGc JADEc BOLT OF CLOTHc EYE",
      "c SPIRIT ONEd TWOc BAMBOOc SILKc C-SIMPLIFIED SILKc NET ONEd TWOd THREEd FOURc MESH",
      "c SHEEPc RAMc EWEc OLDc BRUSH ONEd TWOc MEATc MORTARc GRASS ONEd TWOd THREEc TIGER",
      "c CLOTHESc WEST ONEd TWOc C-SIMPLIFIED SEEc SIMPLIFIED HORNc HORNc C-SIMPLIFIED SPEECH",
      "e SHELLc FOOTc C-SIMPLIFIED CARTc SIMPLIFIED WALKc WALK ONEd TWOc CITY",
      "c C-SIMPLIFIED GOLDc LONG ONEd TWOc C-SIMPLIFIED LONGe GATEc MOUND ONEd TWOc RAINc BLUE",
      "c C-SIMPLIFIED TANNED LEATHERe LEAFe WINDe FLYc EAT ONEd TWOd THREEc C-SIMPLIFIED EAT",
      "c HEADc C-SIMPLIFIED HORSEc BONEc GHOSTc C-SIMPLIFIED FISHe BIRDe SALTc SIMPLIFIED WHEAT",
      "d YELLOWc C-SIMPLIFIED FROGc J-SIMPLIFIED EVENc C-SIMPLIFIED EVENc J-SIMPLIFIED TOOTH",
      "c C-SIMPLIFIED TOOTHc J-SIMPLIFIED DRAGONc C-SIMPLIFIED DRAGONc TURTLE",
      "c J-SIMPLIFIED TURTLEc C-SIMPLIFIED TURTLE"]),
   (0x2F00, ["aKANGXI RADICAL ONEc LINEc DOTc SLASHc SECONDc HOOKc TWOc LIDc MANc LEGSc ENTER",
      "c EIGHTc DOWN BOXc COVERc ICEc TABLEc OPEN BOXc KNIFEc POWERc WRAPc SPOON",
      "c RIGHT OPEN BOXc HIDING ENCLOSUREc TENc DIVINATIONc SEALc CLIFFc PRIVATEc AGAINc MOUTH",
      "c ENCLOSUREc EARTHc SCHOLARc GOd SLOWLYc EVENINGc BIGc WOMANc CHILDc ROOFc INCHc SMALL",
      "c LAMEc CORPSEc SPROUTc MOUNTAINc RIVERc WORKc ONESELFc TURBANc DRYc SHORT THREAD",
      "c DOTTED CLIFFc LONG STRIDEc TWO HANDSc SHOOTc BOWc SNOUTc BRISTLEc STEPc HEARTc HALBERD",
      "c DOORc HANDc BRANCHc RAPc SCRIPTc DIPPERc AXEc SQUAREc NOTc SUNc SAYc MOONc TREEc LACK",
      "c STOPc DEATHc WEAPONc DO NOTc COMPAREc FURc CLANc STEAMc WATERc FIREc CLAWc FATHER",
      "c DOUBLE Xc HALF TREE TRUNKc SLICEc FANGc COWc DOGc PROFOUNDc JADEc MELONc TILEc SWEET",
      "c LIFEc USEc FIELDc BOLT OF CLOTHc SICKNESSc DOTTED TENTc WHITEc SKINc DISHc EYEc SPEAR",
      "c ARROWc STONEc SPIRITc TRACKc GRAINc CAVEc STANDc BAMBOOc RICEc SILKc JARc NETc SHEEP",
      "c FEATHERc OLDc ANDc PLOWc EARc BRUSHc MEATc MINISTERc SELFc ARRIVEc MORTARc TONGUE",
      "c OPPOSEc BOATc STOPPINGc COLORc GRASSc TIGERc INSECTc BLOODc WALK ENCLOSUREc CLOTHES",
      "c WESTc SEEc HORNc SPEECHc VALLEYc BEANc PIGc BADGERc SHELLc REDc RUNc FOOTc BODYc CART",
      "c BITTERc MORNINGc WALKc CITYc WINEc DISTINGUISHc VILLAGEc GOLDc LONGc GATEc MOUND",
      "c SLAVEc SHORT TAILED BIRDc RAINc BLUEc WRONGc FACEc LEATHERc TANNED LEATHERc LEEK",
      "c SOUNDc LEAFc WINDc FLYc EATc HEADc FRAGRANTc HORSEc BONEc TALLc HAIRc FIGHT",
      "c SACRIFICIAL WINEc CAULDRONc GHOSTc FISHc BIRDc SALTc DEERc WHEATc HEMPc YELLOWc MILLET",
      "c BLACKc EMBROIDERYc FROGc TRIPODc DRUMc RATc NOSEc EVENc TOOTHc DRAGONc TURTLEc FLUTE"]),
   (0x2FF0, ["aIDEOGRAPHIC DESCRIPTION CHARACTER LEFT TO RIGHTd ABOVE TO BELOW",
      "d LEFT TO MIDDLE AND RIGHTd ABOVE TO MIDDLE AND BELOWd FULL SURROUND",
      "d SURROUND FROM ABOVEf BELOWf LEFTf UPPER LEFTg RIGHTf LOWER LEFTd OVERLAID"])]

end PromptTree.Text
