/-!
# Names: scripts

The names of characters of ancient and of lesser used scripts, from `U+10000` to `U+1CFFF`.
-/

namespace BpfCompiler.Text.Name

def scripts : String := "
  =10000aLINEAR_B_SYLLABLE_B008_Au38_Eu28_Iu61_Ou10_Uu01_DAu45_DEu07_DIu14_DOu51_DUv7_JAu46_JE=100
  0Du36_JOu65_JUu77_KAu44_KEu67_KIu70_KOu81_KUv0_MAu13_MEu73_MIu15_MOu23_MUu06_NAu24_NEu30_NIu52_N
  Ov5_NUu03_PAu72_PEu39_PIu11_POu50_PUu16_QAu78_QEu21_QIu32_QO=10028u60_RAu27_REu53_RIu02_ROu26_RU
  u31_SAu09_SEu41_SIu12_SOu58_SUv9_TAu04_TEu37_TIu05_TOu69_TUu54_WAu75_WEu40_WIv2_WO=1003Cu17_ZAu7
  4_ZE=1003Fu20_ZOv5_A2u43_A3u85_AUu71_DWEu90_DWOu48_NWAu29_PU2u62_PTEu76_RA2u33_RA3u68_RO2v6_TA2u
  87_TWEu91_TWO=10050lMBOL_B018t9s22s34s47t9s56s63t4s79s82t3t6t9=10080jIDEOGRAM_B100_MANv2_WOMANv4
  _DEERv5_EQUIDwF_MAREwM_STALLIONv6F_EWEwM_RAMv7F_SHE-GOATwM_HE-GOATv8F_SOWwM_BOARv9F_COWwM_BULLu2
  0_WHEATv1_BARLEYv2_OLIVEv3_SPICEv5_CYPERUSjMONOGRAM_B127_KAPOv8_KANAKOjIDEOGRAM_B130_OILv1_WINEv
  2jMONOGRAM_B133_AREPAv5_MERIjIDEOGRAM_B140_BRONZEv1_GOLDv2v5_WOOLv6u50v1_HORNv2v3v4jMONOGRAM_B15
  6_TURO2jIDEOGRAM_B157v8v9_CLOTHu60v1v2_GARMENTv3_ARMOURv4v5v6v7v8v9u70v1v2v3_MONTHv4v6_TREEv7v8v
  9u80v1v2v3v4v5v9u90v1_HELMETt220_FOOTSTOOLv5_BATHTUBu30_SPEARv1[v2v3_SWORDv4v6u40_WHEELED_CHARIO
  Tv1_CHARIOTv2_CHARIOT_FRAMEv3_WHEELv5v6jMONOGRAM_B247_DIPTEjIDEOGRAM_B248v9u51v2v3v4_DARTv5v6v7v
  8v9sVESSEL_B155!200%1%2%3%4%5%6%7%8%9$10%1%2%3%4%5%6%7%8%9$21%2%6%7%8%9$50!305=10100aAEGEAN_WORD
  _SEPARATOR_LINEwDOThCHECK_MARK=10107hNUMBER_ONEoTWOpHREEoFOURpIVEoSIXpEVENoEIGHToNINEoTENpWENTYp
  HIRTYoFORTYpIFTYoSIXTYpEVENTYoEIGHTYoNINETYoONE_HUNDREDoTWO_HUNDREDpHREE_HUNDREDoFOUR_HUNDREDpIV
  E_HUNDREDoSIX_HUNDREDpEVEN_HUNDREDoEIGHT_HUNDREDoNINE_HUNDREDoONE_THOUSANDoTWO_THOUSANDpHREE_THO
  USANDoFOUR_THOUSANDpIVE_THOUSANDoSIX_THOUSANDpEVEN_THOUSANDoEIGHT_THOUSANDoNINE_THOUSANDoTEN_THO
  USANDpWENTY_THOUSANDpHIRTY_THOUSANDoFORTY_THOUSANDpIFTY_THOUSANDoSIXTY_THOUSANDpEVENTY_THOUSANDo
  EIGHTY_THOUSANDoNINETY_THOUSAND=10137hWEIGHT_BASE_UNIToFIRST_SUBUNIToSECOND_SUBUNIToTHIRD_SUBUNI
  ToFOURTH_SUBUNIThDRY_MEASURE_FIRST_SUBUNIThLIQUID_MEASURE_FIRST_SUBUNIThMEASURE_SECOND_SUBUNITpT
  HIRD_SUBUNITaGREEK_ACROPHONIC_ATTIC_ONE_QUARTER$HALF$DRACHMAxFIVEzFTYzVE_HUNDRED%THOUSANDzFTY_TH
  OUSANDzVE_TALENTSxTEN_TALENTSxFIFTY_TALENTSxONE_HUNDRED_TALENTSxFIVE_HUNDRED_TALENTSxONE_THOUSAN
  D_TALENTSxFIVE_THOUSAND_TALENTS%STATERSxTEN_STATERSxFIFTY_STATERSxONE_HUNDRED_STATERSxFIVE_HUNDR
  ED_STATERSxONE_THOUSAND_STATERSxTEN_THOUSAND_STATERSxFIFTY_THOUSAND_STATERSxTEN_MNASrHERAEUM_ONE
  _PLETHRONrTHESPIAN_ONErHERMIONIAN_ONErEPIDAUREAN_TWOrTHESPIAN_TWOrCYRENAIC_TWO_DRACHMASrEPIDAURE
  AN_TWO_DRACHMASrTROEZENIAN_FIVE%TEN+_ALTERNATE]rHERMIONIAN_TENrMESSENIAN_TENrTHESPIAN_TEN$HIRTYs
  ROEZENIAN_FIFTY._ALTERNATE]rHERMIONIAN_FIFTYrTHESPIAN_FIFTY!ONE_HUNDRED!THREE_HUNDREDrEPIDAUREAN
  _FIVE_HUNDREDrTROEZENIAN_FIVE_HUNDREDsHESPIAN_FIVE_HUNDREDrCARYSTIAN_FIVE_HUNDREDrNAXIAN_FIVE_HU
  NDREDrTHESPIAN_ONE_THOUSAND!FIVE_THOUSANDrDELPHIC_FIVE_MNASrSTRATIAN_FIFTY_MNASgONE_HALF_SIGNt_A
  LTERNATE]gTWO_THIRDS_SIGNhHREE_QUARTERS_SIGNgYEAR_SIGNgTALENT_SIGNgDRACHMA_SIGNgOBOL_SIGNgTWO_OB
  OLS_SIGNhHREE_OBOLS_SIGNgFOUR_OBOLS_SIGNhIVE_OBOLS_SIGNgMETRETES_SIGNgKYATHOS_BASE_SIGNgLITRA_SI
  GNgOUNKIA_SIGNgXESTES_SIGNgARTABE_SIGNiOURA_SIGNgGRAMMA_SIGNgTRYBLION_BASE_SIGNgZERO_SIGNgONE_QU
  ARTER_SIGNgSINUSOID_SIGNgINDICTION_SIGNaNOMISMA_SIGN=10190aROMAN_SEXTANS_SIGNgUNCIA_SIGNgSEMUNCI
  A_SIGNiXTULA_SIGNgDIMIDIA_SEXTULA_SIGNgSILIQUA_SIGNgDENARIUS_SIGNgQUINARIUS_SIGNgSESTERTIUS_SIGN
  gDUPONDIUS_SIGNgAS_SIGNgCENTURIAL_SIGNaASCIA_SYMBOL=101A0aGREEK_SYMBOL_TAU_RHO=101D0aPHAISTOS_DI
  SC_SIGN_PEDESTRIANuLUMED_HEADtTATTOOED_HEADtCAPTIVEuHILDtWOMANtHELMETtGAUNTLETtTIARAtARROWtBOWtS
  HIELDtCLUBtMANACLESvTTOCKtSAWtLIDtBOOMERANGtCARPENTRY_PLANEtDOLIUMtCOMBtSLINGtCOLUMNtBEEHIVEtSHI
  PtHORNuIDEtBULLS_LEGtCATtRAMtEAGLEtDOVEtTUNNYtBEEtPLANE_TREEtVINEtPAPYRUStROSETTEtLILYtOX_BACKtF
  LUTEtGRATERtSTRAINERuMALL_AXEtWAVY_BANDtCOMBINING_OBLIQUE_STROKE=10280aLYCIAN:AoEoBpHoGoDoIoWoZo
  THoJoKoQoLoMoNoMMoNNoUoPoKKoRoSoTpToANoENoHoX=102A0aCARIAN:AoP2oDoLoUUUoRoLDoA2oQoBoMoOoD2oToSHq
  2poC-18oUoNNoXoNoTT2oPoSSoIoEoUUUUoKp2oNDoUUoGp2oSTq2oNGoIIoC-39oTToUUU2oRRoMBq2q3q4oLD2oE2oUUU3
  =102E0bOPTIC_EPACT_THOUSANDS_MARKnDIGIT_ONEtTWOuHREEtFOURuIVEtSIXuEVENtEIGHTtNINEnNUMBER_TENvWEN
  TYvHIRTYuFORTYvIFTYuSIXTYvEVENTYuEIGHTYuNINETYuONE_HUNDREDuTWO_HUNDREDvHREE_HUNDREDuFOUR_HUNDRED
  vIVE_HUNDREDuSIX_HUNDREDvEVEN_HUNDREDuEIGHT_HUNDREDuNINE_HUNDRED=10300aOLD_ITALIC:AsBEsKEsDEsEsV
  EsZEsHEsTHEsIsKAsELtMtNtSHsOsPEsSHEsKUsERtSsTEsUsEKSsPHEsKHEsEFtRSsCHEsIIsUUsESSlNUMERAL_ONEtFIV
  EtTENtFIFTY=1032DlLETTER_YEsNORTHERN_TSEsSOUTHERN_TSEaGOTHIC:AHSAoBAIRKANoGIBAoDAGSoAIHVUSoQAIRT
  HRAoIUJAoHAGLoTHIUTHoEISoKUSMAoLAGUSoMANNAoNAUTHSoJERoURUSoPAIRTHRAoNINETYoRAIDAoSAUILoTEIWSoWIN
  JAoFAIHUoIGGWSoHWAIRoOTHALoNINE_HUNDRED=10350aOLD_PERMIC:ANsBURsGAIsDOIsEsZHOIsDZHOIsZATAsDZITAs
  IsKOKEsLEIsMENOEsNENOEsVOOIsPEEIsREIsSIIsTAIsUsCHERYsSHOOIuCHOOIsYRYtERUsOtOsEFsHAsTSIUsVERsYERv
  ItATsIEsYUtAsIAaCOMBINING_OLD_PERMIC:AN%DOI%ZATA%NENOE%SII=10380aUGARITIC:ALPAqBETAqGAMLAqKHAqDE
  LTAqHOqWOqZETAqHOTAqTETqYODqKAFqSHINqLAMDAqMEMqDHALqNUNqZUqSAMKAqAINqPUqSADEqQOPAqRASHAqTHANNAqG
  HAINqTOqIqUqSSU=1039FjWORD_DIVIDERaOLD_PERSIAN_SIGN_ArIrUrKAsUrGAsUrXArCArJAsIrTAsUrDAsIsUrTHArP
  ArBArFArNAsUrMAsIsUrYArVAsIrRAsUrLArSArZArSHAsSArHA=103C8rAURAMAZDAA$-2$HArXSHAAYATHIYArDAHYAAUS
  H!-2rBAGAsUUMISHmWORD_DIVIDERmNUMBER_ONEtTWOuENuWENTYtHUNDRED=10400aDESERET_(:LONG_I%E%A&H%O&OxS
  HORT_I&E&A*H&O*OxAYxOWxWUxYEExHxPEExBEExTEExDEExCHEExJEExKAYxGAYxEFxVEExETHxTHEExESxZEExESHxZHEE
  xERyLyMyNzGxOIxEWi):LONG_I!E!A$H!O$OvSHORT_I$E$A%H$O%OvAYvOWvWUvYEEvHvPEEvBEEvTEEvDEEvCHEEvJEEvK
  AYvGAYvEFvVEEvETHvTHEEvESvZEEvESHvZHEEvERwLwMwNxGvOIvEWaSHAVIAN:PEEPpTOTpKICKpFEEpTHIGHpSOqUREpC
  HURCHpYEApHUNGpBIBpDEADpGAGpVOWpTHEYpZOOpMEASUREpJUDGEpWOEpHA-HApLOLLpMIMEpIFpEGGpASHqDOpONpWOOL
  pOUTpAHpROARpNUNpEATpAGEpICEpUPpOAKqOZEqILpAWEqREpORpAIRpERRpARRAYpEARpIANpYEWaOSMANYA:ALEFpBApT
  ApJApXApKHApDEELpRApSAqHIINpDHApCAYNpGApFApQAAFpKAAFpLAANpMIINpNUUNpWAWpHApYApApEpIpOpUpAApEEpOO
  =104A0iDIGIT_ZEROoONEoTWOpHREEoFOURpIVEoSIXpEVENoEIGHToNINE=104B0cAGE_(:AwIxNwHvBRAvCHAvEHCHAwwI
  NvHAwYAvIvKAvEHKAvKYAvLAvMAvNAvOwINvPAvEHPAvSAwHAvTAvEHTAvTSAvEHTSAvTSHAvDHAvUvWAvKHAvGHAvZAwHA=
  104D8g):AuIvNuHtBRAtCHAtEHCHAuuINtHAuYAtItKAtEHKAtKYAtLAtMAtNAtOuINtPAtEHPAtSAuHAtTAtEHTAtTSAtEH
  TSAtTSHAtDHAtUtWAtKHAtGHAtZAuHA=10500aELBASAN:ApBEpCEqHEpDEpNDEpDHEpEIqpFEpGEqJEpHEpIpJEpKEpLEqL
  EpMEpNEqAqJEpOpPEpQEpREqREpSEqHEpTEqHEpUpVEpXEpYpZEqHEpGHErAMMApKHE=10530aCAUCASIAN_ALBANIAN:ALT
  !BET!GIM!DAT!EB!ZARL!EYN!ZHIL!TAS!CHA!YOWD!ZHA!IRB!SHA!LAN!INYA!XEYN!DYAN!CAR!JHOX!KAR!LYIT!HEYT
  !QAY!AOR!CHOY%I$YAY!MAQ!QAR!NOWC!DZYAY!SHAK!JAYN!ON!TYAY!FAM!DZAY!CHAT!PEN!GHEYS!RAT!SEYK!VEYZ!T
  IWR!SHOY!IWN!CYAW$AYN!YAYD!PIWR!KIW=1056FtCITATION_MARKaVITHKUQI_(:AyBBEzEyCEzHEyDEzHEyEIzyFEyGA
  =1057CyHAzHAyIzJEyJEyKAyLAzLAyMEyNEzJEyOyPEyQAyRE=1058CySEzHEyTEzHEyUyVEyXE=10594yYyZE=10597j):A
  wBBExEwCExHEwDExHEwEIxwFEwGA=105A3wHAxHAwIxJEwJEwKAwLAxLAwMEwNExJEwOwPEwQAwRE=105B3wSExHEwTExHEw
  UwVEwXE=105BBwYwZE=10600aLINEAR_A_SIGN_AB001s2s3s4s5s6s7s8s9r10s1s3s6s7r20s1tFtMs2tFtMs3tMs4s6s7
  s8p028BpB029r30s1s4s7s8s9r40s1s4s5s6s7s8s9r50s1s3s4s5s6s7s8s9r60s1s5s6s7s9r70s3s4s6s7s8s9r80s1s2
  s5s6s7p100-102pB118r20p120BpB122s3r31AtBp131CpB164r71r80s8r91p301r2r3r4r5r6r7r8r9AsBsCq10r1r2r3A
  sBsCr4r5r6r7r8r9q20r1r2r3r4r5r6r7r8r9q30r1r2r3r4r5r6r7r8r9q40r1r2r3r4r5r6r7r8r9q50r1r2r3r4r5r6r7
  r8r9q60r1r2r3r4r5r6r7r8r9q70r1p400-VASr1-VASr2-VASr3-VASr4-VASr5-VASr6-VASr7-VASr8-VASr9-VASq10-
  VASr1-VASr2-VASr3-VASr4-VASr5-VASr6-VASr7-VASr8-VASp501r2r3r4r5r6r8r9q10r1r2r3r5r6q20r1r3r4r5r6r
  7r8r9q30r1r2r4r5r6r7r8r9q40r1r2r5r7r8r9q50r1r2r3r4r5r6r7r9q63r4r5r6r8r9q70r1r2r3r4r5r6r7r8r9q80r
  1r2r3r4r5r6r7r8r9q91r2r4r5r6r8p600r1r2r3r4r6r8r9q10r1r2r3r4r5r6r7r8r9q20r1r2r3r4r6r7r8r9q34r7r8q
  40r2r3r4r5r6r8r9q51r2r3r4r5r6r7r8r9q60r1r2r3r4=10740p701_Ar2_Br3_Dr4_Er5_Fr6_Hr7_Jr8_Kr9_Ls-2_L2
  t3_L3t4_L4t6_L6q10_Wr1_Xr2_Yr3_OMEGAr4_ABBr5_BBr7_DDq26_EYYYq32_JE=10760p800r1r2r3r4r5r6r7=10780
  aMODIFIER:)_(_AArUPERSCRIPT_TRIANGULAR_COLON%HALF_TRIANGULAR_COLONrMALL_AEw(_BwB@HOOK=10787wDZ_D
  IGRAPH,@RETROFLEX_HOOK^CURLxEZH_DIGRAPHx@TAIL&HOOK./TAILwREVERSED_EwCLOSED_REVERSED_OPEN_EwFENG_
  DIGRAPHwRAMS_HORNw(_GwG@HOOKw(_G@HOOKwH@STROKEw(_HwHENG@HOOKwDOTLESS_J@STROKE/HOOKwLS_DIGRAPHxZ_
  DIGRAPHx@BELTw(_L@BELTwL@RETROFLEX_HOOK/BELTxEZH!@RETROFLEX_HOOKwTURNED_Y*@BELTwO@STROKEw(_OExLO
  SED_OMEGAwQwTURNED_R@LONG_LEG~_LEG/RETROFLEX_HOOKwR@TAIL&FISHHOOKw(_RwTC_DIGRAPH@CURLxS_DIGRAPH,
  @RETROFLEX_HOOKxESH_DIGRAPHx@RETROFLEX_HOOKwV@RIGHT_HOOK=107B2w(_YqGLOTTAL_STOP@STROKEqREVERSED_
  GLOTTAL_STOP@STROKEqBILABIAL_CLICKqDENTAL_CLICKqLATERAL_CLICKqALVEOLAR_CLICKqRETROFLEX_CLICK@RET
  ROFLEX_HOOKq)_S@CURL=10800aCYPRIOT_SYLLABLE_ArErIrOrUrJA=10808sO=1080ArKAsEsIsOsUrLAsEsIsOsUrMAs
  EsIsOsUrNAsEsIsOsUrPAsEsIsOsUrRAsEsIsOsUrSAsEsIsOsUrTAsEsIsOsUrWAsEsIsO=10837rXAsE=1083CrZA=1083
  FsOaIMPERIAL_ARAMAIC:ALEPHyBETHyGIMELyDALETHyHEyWAWyZAYINyHETHyTETHyYODHyKAPHyLAMEDHyMEMyNUNySAM
  EKHyAYINyPEySADHEyQOPHyRESHySHINyTAW=10857rSECTION_SIGNrNUMBER_ONEyTWOzHREEzENzWENTYyONE_HUNDRED
  %THOUSANDyTEN_THOUSANDaPALMYRENE:ALEPHrBETHrGIMELrDALETHrHErWAWrZAYINrHETHrTETHrYODHrKAPHrLAMEDH
  rMEMrFINAL_NUNrNUNrSAMEKHrAYINrPErSADHErQOPHrRESHrSHINrTAWmFT-POINTING_FLEURONkRIGHT-POINTING_FL
  EURONkNUMBER_ONErTWOsHREErFOURsIVErTENsWENTYaNABATAEAN:FINAL_ALEPHrALEPHrFINAL_BETHrBETHrGIMELrD
  ALETHrFINAL_HErHErWAWrZAYINrHETHrTETHrFINAL_YODHrYODHrFINAL_KAPHrKAPHrFINAL_LAMEDHrLAMEDHrFINAL_
  MEMrMEMrFINAL_NUNrNUNrSAMEKHrAYINrPErSADHErQOPHrRESHrFINAL_SHINrSHINrTAW=108A7kNUMBER_ONErTWOsHR
  EErFOURkCRUCIFORM_NUMBER_FOURkNUMBER_FIVErTENsWENTYrONE_HUNDRED=108E0aHATRAN:ALEPHoBETHoGIMELoDA
  LETH-RESHoHEoWAWoZAYNoHETHoTETHoYODHoKAPHoLAMEDHoMEMoNUNoSAMEKHoAYNoPEoSADHEoQOPH=108F4oSHINoTAW
  =108FBhNUMBER_ONEoFIVEoTENpWENTYoONE_HUNDREDaPHOENICIAN:ALFsBETsGAMLsDELTsHEsWAUsZAIsHETsTETsYOD
  sKAFsLAMDsMEMsNUNsSEMKsAINsPEsSADEsQOFsROSHsSHINsTAUlNUMBER_ONEsTENtWENTYsONE_HUNDREDsTWOtHREE=1
  091FlWORD_SEPARATORaLYDIAN:AoBoGoDoEoVoIoYoKoLoMoNoOoRoSSoToUoFoQoSoTToANoENoLYoNNoC=1093FhTRIAN
  GULAR_MARK=10980aMEROITIC_HIEROGLYPHIC:A&E&I&O&YA&WA&BA+-2&PA&MA&NA+-2*E+-2&RA+-2&LA&KHA&HHA&SA+
  -2*E&KA&QA&TA+-2*E+-2*O&DAwSYMBOL_VIDJ.-2jCURSIVE:AyEyIyOyYAyWAyBAyPAyMAyNAzEyRAyLAyKHAyHHAySAyA
  RCHAIC_SAySEyKAyQAyTAzEzOyDA=109BCrFRACTION_ELEVEN_TWELFTHS!ONE_HALFrLOGOGRAM_RMT!IMNrNUMBER_ONE
  yTWOzHREEyFOURzIVEySIXzEVENyEIGHTyNINEyTENzWENTYzHIRTYyFORTYzIFTYySIXTYzEVENTY=109D2yONE_HUNDRED
  yTWO_HUNDREDzHREE_HUNDREDyFOUR_HUNDREDzIVE_HUNDREDySIX_HUNDREDzEVEN_HUNDREDyEIGHT_HUNDREDyNINE_H
  UNDREDyONE_THOUSANDyTWO_THOUSANDzHREE_THOUSANDyFOUR_THOUSANDzIVE_THOUSANDySIX_THOUSANDzEVEN_THOU
  SANDyEIGHT_THOUSANDyNINE_THOUSANDyTEN_THOUSANDzWENTY_THOUSANDzHIRTY_THOUSANDyFORTY_THOUSANDzIFTY
  _THOUSANDySIXTY_THOUSANDzEVENTY_THOUSANDyEIGHTY_THOUSANDyNINETY_THOUSANDyONE_HUNDRED_THOUSANDyTW
  O_HUNDRED_THOUSANDzHREE_HUNDRED_THOUSANDyFOUR_HUNDRED_THOUSANDzIVE_HUNDRED_THOUSANDySIX_HUNDRED_
  THOUSANDzEVEN_HUNDRED_THOUSANDyEIGHT_HUNDRED_THOUSANDyNINE_HUNDRED_THOUSANDrFRACTION_ONE_TWELFTH
  !TWO_TWELFTHS$HREE_TWELFTHS!FOUR_TWELFTHS$IVE_TWELFTHS!SIX_TWELFTHS$EVEN_TWELFTHS!EIGHT_TWELFTHS
  !NINE_TWELFTHS!TEN_TWELFTHSaKHAROSHTHI:AlVOWEL_SIGN_IwUwVOCALIC_R=10A05wEwO=10A0CrLENGTH_MARKlSI
  GN_DOUBLE_RING_BELOWqANUSVARAqVISARGAlLETTER_KAtHAsGAtHA=10A15sCAtHAsJA=10A19sNYAsTTAuHAsDDAuHAs
  NNAsTAtHAsDAtHAsNAsPAtHAsBAtHAsMAsYAsRAsLAsVAsSHAtSAtAsZAsHAsKKAsTTTHAvAsVHA=10A38lSIGN_BAR_ABOV
  EqCAUDAqDOT_BELOW=10A3FlVIRAMAlDIGIT_ONErTWOsHREErFOURlNUMBER_TENtWENTYsONE_HUNDREDwTHOUSANDlFRA
  CTION_ONE_HALF=10A50lPUNCTUATION_DOTx)_CIRCLExCIRCLEyRESCENT_BARxMANGALAMxLOTUSxDANDAyOUBLE_DAND
  AxLINES=10A60aOLD_SOUTH_ARABIAN:HEzLAMEDHzHETHzMEMzQOPHzWAWzSHINzRESHzBETHzTAWzSATzKAPHzNUNzKHET
  HzSADHE$MEKHzFEzALEF!YNzDHADHEzGIMELzDALETHzGHAYNzTETHzZAYNzDHALETHzYODHzTHAW$ETHsNUMBER_ONEzFIF
  TYvERIC_INDICATOReNORTH_ARABIAN:HEHzLAMzHAHzMEEMzQAFzWAWzES-2zREHzBEHzTEHzES-1zKAFzNOONzKHAHzSAD
  zES-3zFEHzALEF!INzDADzGEEMzDALzGHAINzTAHzZAINzTHALzYEHzTHEHzZAHsNUMBER_ONEzTEN!WENTY=10AC0aMANIC
  HAEAN:ALEPHsBETHtHETHsGIMELtHIMELsDALETHsHEsWAWlSIGN_UDlLETTER_ZAYINtHAYINsJAYINtHAYINsHETHsTETH
  sYODHsKAPHsXAPHsKHAPHsLAMEDHsDHAMEDHsTHAMEDHsMEMsNUNsSAMEKHsAYINtAYINsPEsFEsSADHEsQOPHsXOPHsQHOP
  HsRESHsSHINtSHINsTAWlABBREVIATION_MARK_ABOVE&BELOW=10AEBlNUMBER_ONEsFIVEsTENtWENTYsONE_HUNDREDlP
  UNCTUATION_STARxFLEURONxDOUBLE_DOT_WITHIN_DOTzT_WITHIN_DOT!xTWO_DOTSxLINE_FILLER=10B00aAVESTAN:A
  qAqOqAOqNqANqErEpEqEpOqOpIqIpUqUpKEpXEqYEqVEpGEqGEqHEpCEpJEpTEqHEpDEqHEpTTEpPEpFEpBEqHEpNGErYErV
  EqEqYEqNEpMEpHMEpYYEqEpVEpREpLEpSEpZEpSHEpZHEpSHYEqSHEpHE=10B39iABBREVIATION_MARKaTINY_TWO_DOTS_
  OVER_ONE_DOT_PUNCTUATIONa)_TWO_DOTS_OVER_ONE_DOT_PUNCTUATIONaLARGE_TWO_DOTS_OVER_ONE_DOT_PUNCTUA
  TIONgONE_DOT_OVER_TWO_DOTS_PUNCTUATIONgTWO_RINGS_OVER_ONE_RING_PUNCTUATIONgONE_RING_OVER_TWO_RIN
  GS_PUNCTUATIONaINSCRIPTIONAL_PARTHIAN:ALEPH*BETH*GIMEL*DALETH*HE*WAW*ZAYIN*HETH*TETH*YODH*KAPH*L
  AMEDH*MEM*NUN*SAMEKH*AYIN*PE*SADHE*QOPH*RESH*SHIN*TAW=10B58xNUMBER_ONE*TWO+HREE*FOUR*TEN+WENTY*O
  NE_HUNDRED;THOUSANDqHLAVI:ALEPH&BETH&GIMEL&DALETH&HE&WAW-AYIN-RESH&ZAYIN&HETH&TETH&YODH&KAPH&LAM
  EDH&MEM-QOPH&NUN&SAMEKH&PE&SADHE*HIN&TAW=10B78wNUMBER_ONE&TWO*HREE&FOUR&TEN*WENTY&ONE_HUNDRED.TH
  OUSANDaPSALTER_PAHLAVI:ALEPHxBETHxGIMELxDALETHxHExWAW-AYIN-RESHxZAYINxHETHxYODHxKAPHxLAMEDHxMEM-
  QOPHxNUNxSAMEKHxPExSADHEyHINxTAW=10B99qSECTION_MARKqTURNED_SECTION_MARKqFOUR_DOTS@CROSS+DOT=10BA
  9qNUMBER_ONExTWOyHREExFOURxTENyWENTYxONE_HUNDRED=10C00aOLD_TURKIC:ORKHON_AsYENISEI_A$EsORKHON_Is
  YENISEI_I!EsORKHON_O!EsYENISEI_OEsORKHON_ABsYENISEI_ABsORKHON_AEBsYENISEI_AEBsORKHON_AGsYENISEI_
  AGsORKHON_AEGsYENISEI_AEGsORKHON_ADsYENISEI_ADsORKHON_AEDzEZsYENISEI_EZsORKHON_AYsYENISEI_AYsORK
  HON_AEYsYENISEI_AEYsORKHON_AEKsYENISEI_AEKsORKHON_OEKsYENISEI_OEKsORKHON_ALsYENISEI_ALsORKHON_AE
  LzELT!MzAN!ENsYENISEI_AENsORKHON_ENTsYENISEI_ENTsORKHON_ENCsYENISEI_ENCsORKHON_ENYsYENISEI_ENY!A
  NGsORKHON_ENGsYENISEI_AENGsORKHON_EPzOPzICzECsYENISEI_ECsORKHON_AQsYENISEI_AQsORKHON_IQsYENISEI_
  IQsORKHON_OQsYENISEI_OQsORKHON_ARsYENISEI_ARsORKHON_AER!S!ES!SHsYENISEI_ASHsORKHON_ESHsYENISEI_E
  SHsORKHON_ATsYENISEI_ATsORKHON_AETsYENISEI_AETsORKHON_OTzBASH=10C80eHUNGARIAN_(:A*A&EB&AMB&EC*NC
  *CS*D&AND&E&CLOSE_E&EE*F*G+Y*H&I*I&EJ*K&AK&UNK&EL+Y*M*N+Y&O*O&NIKOLSBURG_OE&RUDIMENTA_OE&OEE&EP*
  MP*R&SHORT_ER&ES+Z*T*NT*TY*CH&U*U&NIKOLSBURG_UE&RUDIMENTA_UE&EV*Z+S*NT-SHAPED_SIGN&US=10CC0o):A%
  A$EB$AMB$EC%NC%CS%D$AND$E$CLOSE_E$EE%F%G&Y%H$I%I$EJ%K$AK$UNK$EL&Y%M%N&Y$O%O$NIKOLSBURG_OE$RUDIME
  NTA_OE$OEE$EP%MP%R$SHORT_ER$ES&Z%T%NT%TY%CH$U%U$NIKOLSBURG_UE$RUDIMENTA_UE$EV%Z&S%NT-SHAPED_SIGN
  $US=10CFAoNUMBER_ONEvFIVEvTENvFIFTYvONE_HUNDREDzTHOUSANDaHANIFI_ROHINGYA:AxBAxPAxTAyTAxJAxCAxHAx
  KHAxFAxDAyDAxRAyRAxZAxSAyHAxKAxGAxLAxMAxNAxWAxKINNA_WAxYAxKINNA_YAxNGAyYAxVAqVOWEL_AwIwUwEwOqMAR
  K_SAKINvNA_KHONNAqSIGN_HARBAHAYvTAHALAxNAxSSI=10D30qDIGIT_ZEROwONEwTWOxHREEwFOURxIVEwSIXxEVENwEI
  GHTwNINE=10E60aRUMI_DIGIT_ONElTWOmHREElFOURmIVElSIXmEVENlEIGHTlNINEfNUMBER_TENnWENTYnHIRTYmFORTY
  nIFTYmSIXTYnEVENTYmEIGHTYmNINETYmONE_HUNDREDmTWO_HUNDREDnHREE_HUNDREDmFOUR_HUNDREDnIVE_HUNDREDmS
  IX_HUNDREDnEVEN_HUNDREDmEIGHT_HUNDREDmNINE_HUNDREDfFRACTION_ONE_HALFsQUARTERsTHIRDoTWO_THIRDS=10
  E80aYEZIDI:ELIFoBEoPEpHEoTHEoSEoCIMpHIMqHIMoHHAoXAoDALoZALoRApHAoZAoJAoSINpHINpADoDADoTAoZEoEYNo
  XHEYNoFAoVAq_ALTERNATE]oQAFoKAFpHAFoGAFoLAMoMIMoNUNoUMoWAWoOWoEWoHAYoYOToET=10EABhCOMBINING_HAMZ
  A_MARKrMADDA_MARKhHYPHENATION_MARK=10EB0hLETTER_LAM@DOT_ABOVEoYOT@CIRCUMFLEX_ABOVE=10F00aOLD_SOG
  DIAN:ALEPHtFINAL_ALEPHtBETHtFINAL_BETHtGIMELtHEtFINAL_HEtWAWtZAYINtHETHtYODHtKAPHtLAMEDHtMEMtNUN
  tFINAL_NUN%@VERTICAL_TAILtSAMEKHtAYINuLTERNATE_AYINtPEtSADHEtFINAL_SADHE*@VERTICAL_TAILtRESH-AYI
  N-DALETHtSHINtTAWtFINAL_TAW%@VERTICAL_TAILmNUMBER_ONEtTWOuHREEtFOURuIVEtTENuWENTYuHIRTYtONE_HUND
  REDmFRACTION_ONE_HALFmLIGATURE_AYIN-DALETH=10F30aSOGDIAN:ALEPHpBETHpGIMELpHEpWAWpZAYINpHETHpYODH
  pKAPHpLAMEDHpMEMpNUNpSAMEKHpAYINpPEpSADHEpRESH-AYINpSHINpTAWpFETHpLESHiINDEPENDENT_SHINiCOMBININ
  G_DOT_BELOWsTWO_DOTS_BELOWsDOT_ABOVEsTWO_DOTS_ABOVEsCURVE_ABOVEyBELOWsHOOK_ABOVExBELOWsLONG_HOOK
  _BELOWsRESH_BELOWsSTROKE_BELOWiNUMBER_ONEpTENqWENTYpONE_HUNDREDiPUNCTUATION_TWO_VERTICAL_BARS?@D
  OTSuCIRCLE@DOTuTWO_CIRCLES@DOTSuHALF_CIRCLE@DOT=10F70aOLD_UYGHUR:ALEPHsBETHsGIMEL-HETHsWAWsZAYIN
  sFINAL_HETHsYODHsKAPHsLAMEDHsMEMsNUNsSAMEKHsPEsSADHEsRESHsSHINsTAWsLESHlCOMBINING_DOT_ABOVEzBELO
  WvTWO_DOTS_ABOVE*BELOWlPUNCTUATION_BARxTWO_BARS$DOTSxFOUR_DOTS=10FB0aCHORASMIAN:ALEPHs)_ALEPHsBE
  THsGIMELsDALETHsHEsWAWsCURLED_WAWsZAYINsHETHsYODHsKAPHsLAMEDHsMEMsNUNsSAMEKHsAYINsPEsRESHsSHINsT
  AWlNUMBER_ONEsTWOtHREEsFOURsTENtWENTYsONE_HUNDRED=10FE0aELYMAIC:ALEPHpBETHpGIMELpDALETHpHEpWAWpZ
  AYINpHETHpTETHpYODHpKAPHpLAMEDHpMEMpNUNpSAMEKHpAYINpPEpSADHEpQOPHpRESHpSHINpTAWjIGATURE_ZAYIN-YO
  DH=11000aBRAHMI_SIGN_CANDRABINDUmANUSVARAmVISARGAmJIHVAMULIYAmUPADHMANIYAhLETTER_ApAoIpIoUpUoVOC
  ALIC_RxRwLxLoEoAIoOoAUoKApHAoGApHAoNGAoCApHAoJApHAoNYAoTTAqHAoDDAqHAoNNAoTApHAoDApHAoNAoPApHAoBA
  pHAoMAoYAoRAoLAoVAoSHApSApAoHAoLLAoOLD_TAMIL_LLLAyRRAyNNNAhVOWEL_SIGN_AAsBHATTIPROLU_AAsItIsUtUs
  VOCALIC_R$R!L$LsEsAIsOsAUiIRAMAhDANDAiOUBLE_DANDAhPUNCTUATION_DOTvUBLE_DOTtLINEtCRESCENT_BARtLOT
  US=11052hNUMBER_ONEoTWOpHREEoFOURpIVEoSIXpEVENoEIGHToNINEoTENpWENTYpHIRTYoFORTYpIFTYoSIXTYpEVENT
  YoEIGHTYoNINETYoONE_HUNDREDsTHOUSANDhDIGIT_ZEROnONEnTWOoHREEnFOURoIVEnSIXoEVENnEIGHTnNINEhSIGN_O
  LD_TAMIL_VIRAMAhLETTER_OLD_TAMIL_SHORT_E*OhVOWEL_SIGN_OLD_TAMIL_SHORT_E;OhLETTER_OLD_TAMIL_LLA=1
  107FhNUMBER_JOINERaKAITHI_SIGN_CANDRABINDUmANUSVARAmVISARGAhLETTER_ApAoIpIoUpUoEoAIoOoAUoKApHAoG
  ApHAoNGAoCApHAoJApHAoNYAoTTAqHAoDDAqDHAqHAoRHAoNNAoTApHAoDApHAoNAoPApHAoBApHAoMAoYAoRAoLAoVAoSHA
  pSApAoHAhVOWEL_SIGN_AAsItIsUtUsEsAIsOsAUhSIGN_VIRAMAmNUKTAhABBREVIATION_SIGNhENUMERATION_SIGNhNU
  MBER_SIGNhSECTION_MARKhDOUBLE_SECTION_MARKiANDAiOUBLE_DANDAhVOWEL_SIGN_VOCALIC_R=110CDhNUMBER_SI
  GN_ABOVE=110D0aSORA_SOMPENG:SAHuTAHuBAHuCAHuDAHuGAHuMAHuNGAHuLAHuNAHuVAHuPAHuYAHuRAHuHAHuKAHuJAH
  uNYAHuAHuEEHuIHuUHuOHuEHuMAE=110F0nDIGIT_ZEROtONEtTWOuHREEtFOURuIVEtSIXuEVENtEIGHTtNINE=11100aCH
  AKMA_SIGN_CANDRABINDUmANUSVARAmVISARGAhLETTER_AAoIoUoEoKAApHAAoGAApHAAoNGAAoCAApHAAoJAApHAAoNYAA
  oTTAAqHAAoDDAAqHAAoNNAAoTAApHAAoDAApHAAoNAAoPAApHAAoBAApHAAoMAAoYYAApAAoRAAoLAAoWAAoSAAoHAAhVOWE
  L_SIGN_AsItIsUtUsEsAIsOsAUsOIhO_MARKhAU_MARKhVIRAMAhMAAYYAA=11136hDIGIT_ZEROnONEnTWOoHREEnFOURoI
  VEnSIXoEVENnEIGHTnNINEhSECTION_MARKhDANDAiOUBLE_DANDAhQUESTION_MARKhLETTER_LHAAhVOWEL_SIGN_AAsEI
  hLETTER_VAA=11150aMAHAJANI:AqIqUqEqOqKArHAqGArHAqCArHAqJArHAqNYAqTTAsHAqDDAsHAqNNAqTArHAqDArHAqN
  AqPArHAqBArHAqMAqRAqLAqVAqSAqHAqRRAjSIGN_NUKTAjABBREVIATION_SIGNjSECTION_MARKjLIGATURE_SHRI=1118
  0aSHARADA_SIGN_CANDRABINDUnANUSVARAnVISARGAiLETTER_AqApIqIpUqUpVOCALIC_RyRxLyLpEpAIpOpAUpKAqHApG
  AqHApNGApCAqHApJAqHApNYApTTArHApDDArHApNNApTAqHApDAqHApNApPAqHApBAqHApMApYApRApLAqLApVApSHAqSAqA
  pHAiVOWEL_SIGN_AAtIuItUuUtVOCALIC_R%R$L%LtEtAItOtAUiSIGN_VIRAMAnAVAGRAHAnJIHVAMULIYAnUPADHMANIYA
  iOMiDANDAjOUBLE_DANDAiABBREVIATION_SIGNiSEPARATORjANDHI_MARKjIGN_NUKTAiVOWEL_MODIFIER_MARKiEXTRA
  _SHORT_VOWEL_MARKiSUTRA_MARKiVOWEL_SIGN_PRISHTHAMATRA_EiSIGN_INVERTED_CANDRABINDUiDIGIT_ZEROoONE
  oTWOpHREEoFOURpIVEoSIXpEVENoEIGHToNINEiEKAMiSIGN_SIDDHAMiHEADSTROKEiCONTINUATION_SIGNiSECTION_MA
  RK-1v2=111E1bINHALA_ARCHAIC_DIGIT_ONEwTWOxHREEwFOURxIVEwSIXxEVENwEIGHTwNINEqNUMBER_TENyWENTYyHIR
  TYxFORTYyIFTYxSIXTYyEVENTYxEIGHTYxNINETYxONE_HUNDRED$THOUSAND=11200aKHOJKI:ApAoIoUoEoAIoOoAUoKAp
  HAoGApGApHAoNGAoCApHAoJApJA=11213oNYAoTTAqHAoDDAqHAoNNAoTApHAoDApDDApHAoNAoPApHAoBApBApHAoMAoYAo
  RAoLAoVAoSAoHAoLLAhVOWEL_SIGN_AAsItIsUsEsAIsOsAUhSIGN_ANUSVARAmVIRAMAmNUKTAmSHADDAhDANDAiOUBLE_D
  ANDAhWORD_SEPARATORhSECTION_MARKhDOUBLE_SECTION_MARKhABBREVIATION_SIGNhSIGN_SUKUN=11280aMULTANI:
  ApIpUpEpKAqHApGA=11288qHA=1128ApCAqHApJAqJA=1128FpNYApTTArHApDDArDArHApNNApTAqHApDAqHApNApPAqHAp
  BA=1129FqHApMApYApRApLApVApSApHApRRAqHAiSECTION_MARK=112B0aKHUDAWADI:AsArIsIrUsUrErAIrOrAUrKAsHA
  rGAsGAsHArNGArCAsHArJAsJAsHArNYArTTAtHArDDAtDArRRArDDHArNNArTAsHArDAsHArNArPAsHArBAsBAsHArMArYAr
  RArLArVArSHAsArHAkSIGN_ANUSVARAkVOWEL_SIGN_AAvIwIvUwUvEvAIvOvAUkSIGN_NUKTApVIRAMA=112F0kDIGIT_ZE
  ROqONEqTWOrHREEqFOURrIVEqSIXrEVENqEIGHTqNINE=11300aGRANTHA_SIGN_COMBINING_ANUSVARA_ABOVEoANDRABI
  NDUnANUSVARAnVISARGA=11305iLETTER_AqApIqIpUqUpVOCALIC_RxL=1130FpEEpAI=11313pOOpAUpKAqHApGAqHApNG
  ApCAqHApJAqHApNYApTTArHApDDArHApNNApTAqHApDAqHApNA=1132ApPAqHApBAqHApMApYApRA=11332pLAqLA=11335p
  VApSHAqSAqApHA=1133BaCOMBINING_BINDU_BELOWaGRANTHA_SIGN_NUKTAnAVAGRAHAiVOWEL_SIGN_AAtIuItUuUtVOC
  ALIC_R%R=11347tEEtAI=1134BtOOtAUiSIGN_VIRAMA=11350iOM=11357iAU_LENGTH_MARK=1135DiSIGN_PLUTAiLETT
  ER_VEDIC_ANUSVARAvDOUBLE_ANUSVARAqOCALIC_RRxLLiVOWEL_SIGN_VOCALIC_L%L=11366aCOMBINING_GRANTHA_DI
  GIT_ZEROyONEyTWOzHREEyFOURzIVEySIX=11370sLETTER_AzKAzNAzVIzPA=11400aNEWA:AnAmInImUnUmVOCALIC_RvR
  uLvLmEmAImOmAUmKAnHAmGAnHAmNGAoHAmCAnHAmJAnHAmNYAoHAmTTAoHAmDDAoHAmNNAmTAnHAmDAnHAmNAnHAmPAnHAmB
  AnHAmMAnHAmYAmRAnHAmLAnHAmWAmSHAnSAnAmHAfVOWEL_SIGN_AAqIrIqUrUqVOCALIC_RzRyLzLqEqAIqOqAUfSIGN_VI
  RAMAkCANDRABINDUkANUSVARAkVISARGAkNUKTAkAVAGRAHAkFINAL_ANUSVARAfOMfSIDDHIfDANDAgOUBLE_DANDAfCOMM
  AfGAP_FILLERfABBREVIATION_SIGNfDIGIT_ZEROlONElTWOmHREElFOURmIVElSIXmEVENlEIGHTlNINEgOUBLE_COMMAf
  PLACEHOLDER_MARK=1145DfINSERTION_SIGNfSANDHI_MARKfLETTER_VEDIC_ANUSVARAfSIGN_JIHVAMULIYAkUPADHMA
  NIYA=11480aTIRHUTA_ANJIiLETTER_AqApIqIpUqUpVOCALIC_RyRxLyLpEpAIpOpAUpKAqHApGAqHApNGApCAqHApJAqHA
  pNYApTTArHApDDArHApNNApTAqHApDAqHApNApPAqHApBAqHApMApYApRApLApVApSHAqSAqApHAiVOWEL_SIGN_AAtIuItU
  uUtVOCALIC_R%R$L%LtEtSHORT_EtAItOtSHORT_OtAUiSIGN_CANDRABINDUnANUSVARAnVISARGApRAMAnNUKTAnAVAGRA
  HAiGVANGiABBREVIATION_SIGNiOM=114D0iDIGIT_ZEROoONEoTWOpHREEoFOURpIVEoSIXpEVENoEIGHToNINE=11580aS
  IDDHAM:AqApIqIpUqUpVOCALIC_RyRxLyLpEpAIpOpAUpKAqHApGAqHApNGApCAqHApJAqHApNYApTTArHApDDArHApNNApT
  AqHApDAqHApNApPAqHApBAqHApMApYApRApLApVApSHAqSAqApHAiVOWEL_SIGN_AAtIuItUuUtVOCALIC_R%R=115B8tEtA
  ItOtAUiSIGN_CANDRABINDUnANUSVARAnVISARGApRAMAnNUKTAnSIDDHAMiDANDAjOUBLE_DANDAiSEPARATOR_DOTsBARi
  REPETITION_MARK-1y2y3iEND_OF_TEXT_MARKiSECTION_MARK@TRIDENT/U-SHAPED_ORNAMENTS^DOTTED_CRESCENTS!
  RAYS/DOTTED_CRESCENTS~D_DOUBLE_CRESCENTS~D_TRIPLE_CRESCENTSvDOUBLE_RING,@RAYSvWITH_DOUBLE_CRESCE
  NTS!TRIPLE_CRESCENTS!QUADRUPLE_CRESCENTS!SEPTUPLE_CRESCENTS!CIRCLES/RAYS^TWO_ENCLOSURES^FOUR_ENC
  LOSURESiLETTER_THREE-CIRCLE_ALTERNATE_IqWO-CIRCLE_ALTERNATE_I?IpALTERNATE_UiVOWEL_SIGN_ALTERNATE
  _U*U=11600aMODI:AnAmInImUnUmVOCALIC_RvRuLvLmEmAImOmAUmKAnHAmGAnHAmNGAmCAnHAmJAnHAmNYAmTTAoHAmDDA
  oHAmNNAmTAnHAmDAnHAmNAmPAnHAmBAnHAmMAmYAmRAmLAmVAmSHAnSAnAmHAmLLAfVOWEL_SIGN_AAqIrIqUrUqVOCALIC_
  RzRyLzLqEqAIqOqAUfSIGN_ANUSVARAkVISARGAmRAMAkARDHACANDRAfDANDAgOUBLE_DANDAfABBREVIATION_SIGNfSIG
  N_HUVA=11650fDIGIT_ZEROlONElTWOmHREElFOURmIVElSIXmEVENlEIGHTlNINE=11660cNGOLIAN_BIRGA@ORNAMENTkR
  OTATED_BIRGAkDOUBLE_BIRGA@ORNAMENTkTRIPLE_BIRGA@ORNAMENTkBIRGA@DOUBLE_ORNAMENTkROTATED_BIRGA@ORN
  AMENT&DOUBLE_ORNAMENTkINVERTED_BIRGAy@DOUBLE_ORNAMENTkSWIRL_BIRGAv@ORNAMENT$DOUBLE_ORNAMENTkTURN
  ED_SWIRL_BIRGA@DOUBLE_ORNAMENT=11680aTAKRI:AoAnIoInUoUnEnAInOnAUnKAoHAnGAoHAnNGAnCAoHAnJAoHAnNYA
  nTTApHAnDDApHAnNNAnTAoHAnDAoHAnNAnPAoHAnBAoHAnMAnYAnRAnLAnVAnSHAoAnHAnRRAgSIGN_ANUSVARAlVISARGAg
  VOWEL_SIGN_AArIsIrUsUrErAIrOrAUgSIGN_VIRAMAlNUKTAgLETTER_ARCHAIC_KHAgABBREVIATION_SIGN=116C0gDIG
  IT_ZEROmONEmTWOnHREEmFOURnIVEmSIXnEVENmEIGHTmNINE=11700aAHOM:KAnHAmNGAnAmTAmALTERNATE_TAmPAnHAmB
  AmMAmJAmCHAmTHAmRAmLAmSAmNYAmHAmAmDAnHAmGAmALTERNATE_GAmGHAmBHAmJHAmALTERNATE_BA=1171DfCONSONANT
  _SIGN_MEDIAL_LA$RA$LIGATING_RAfVOWEL_SIGN_ArAqIrIqUrUqEqAWqOqAIrMfSIGN_KILLER=11730fDIGIT_ZEROlO
  NElTWOmHREElFOURmIVElSIXmEVENlEIGHTlNINEfNUMBER_TENnWENTYfSIGN_)_SECTIONlECTIONkRULAIgYMBOL_VIfL
  ETTER_CAmTTAoHAmDDAoHAmNNAmLLA=11800aDOGRA:AoAnIoInUoUnEnAInOnAUnKAoHAnGAoHAnNGAnCAoHAnJAoHAnNYA
  nTTApHAnDDApHAnNNAnTAoHAnDAoHAnNAnPAoHAnBAoHAnMAnYAnRAnLAnVAnSHAoSAoAnHAnRRAgVOWEL_SIGN_AArIsIrU
  sUrVOCALIC_R!RrErAIrOrAUgSIGN_ANUSVARAlVISARGAnRAMAlNUKTAgABBREVIATION_SIGN=118A0aWARANG_CITI_(:
  NGAA$A$WI$YU%A%O$II$UU$E$O$ANG$GA$KO$ENY$YUJ$UC$ENN$ODD$TTE$NUNG$DA$AT%M$BU$PU$HIYO%OLO&RR%AR$SS
  UU%II$VIYOm):NGAAzAzWIzYU!A!OzIIzUUzEzOzANGzGAzKOzENYzYUJzUCzENNzODDzTTEzNUNGzDAzAT!MzBUzPUzHIYO
  !OLO$RR!ARzSSUU!IIzVIYOmDIGIT_ZEROsONEsTWOtHREEsFOURtIVEsSIXtEVENsEIGHTsNINEmNUMBER_TENuWENTYuHI
  RTYtFORTYuIFTYtSIXTYuEVENTYtEIGHTYtNINETY=118FFmOMaDIVES_AKURU:AuAtIuItUuUtE=11909tO=1190CtKAuHA
  tGAuHAtNGAtCAuHAtJA=11915tNYAtTTA=11918tDDAvHAtNNAtTAuHAtDAuHAtNAtPAuHAtBAuHAtMAtYAuYAtRAtLAtVAt
  SHAuSAuAtHAtLLAtZAmVOWEL_SIGN_AAxIyIxUyUxE=11937xAIxO=1193BmSIGN_ANUSVARArCANDRABINDUrHALANTAmVI
  RAMAmPREFIXED_NASAL_SIGNmMEDIAL_YAmINITIAL_RAmMEDIAL_RAmSIGN_NUKTAmDOUBLE_DANDAmGAP_FILLERmEND_O
  F_TEXT_MARK=11950mDIGIT_ZEROsONEsTWOtHREEsFOURtIVEsSIXtEVENsEIGHTsNINE=119A0aNANDINAGARI:AuAtIuI
  tUuUtVOCALIC_R%R=119AAtEtAItOtAUtKAuHAtGAuHAtNGAtCAuHAtJAuHAtNYAtTTAvHAtDDAvHAtNNAtTAuHAtDAuHAtN
  AtPAuHAtBAuHAtMAtYAtRAtLAtVAtSHAuSAuAtHAtLLAtRRAmVOWEL_SIGN_AAxIyIxUyUxVOCALIC_R,R=119DAxExAIxOx
  AUmSIGN_ANUSVARArVISARGAtRAMArAVAGRAHArSIDDHAMmHEADSTROKEmVOWEL_SIGN_PRISHTHAMATRA_E=11A00aZANAB
  AZAR_SQUARE:ArVOWEL_SIGN_I%UE&%E%OE&%AI&U%REVERSED_IxLENGTH_MARKrLETTER_KAzHAyGAzHAyNGAyCAzHAyJA
  yNYAyTTA!HAyDDA!HAyNNAyTAzHAyDAzHAyNAyPAzHAyBAzHAyMAyTSA!HAyDZA!HAyZHAzAy-AyYAyRAyLAyVAySHAzSAzA
  yHAyKSSArFINAL_CONSONANT_MARKrSIGN_VIRAMAwCANDRABINDU.@ORNAMENT%@ORNAMENTwANUSVARAwVISARGArCLUST
  ER-INITIAL:RAzFINAL:YA^RA^LA^VArINITIAL_HEAD_MARKrCLOSING_HEAD_MARKrMARK_TSHEGwSHADwDOUBLE_SHADw
  LONG_TSHEGrINITIAL_DOUBLE-LINED_HEAD_MARKrCLOSING_DOUBLE-LINED_HEAD_MARKrSUBJOINER=11A50aSOYOMBO
  :AiVOWEL_SIGN_ItUEutEtOuEtAIuUtVOCALIC_R$LoLENGTH_MARKiLETTER_KAqHApGAqHApNGApCAqHApJAqHApNYApTT
  ArHApDDArHApNNApTAqHApDAqHApNApPAqHApBAqHApMApTSArHApDZApZHAqAp-ApYApRApLApVApSHAqSAqApHApKSSAiS
  IGN_JIHVAMULIYAnUPADHMANIYAiCLUSTER-INITIAL:RA+LA+SHA,AiFINAL_CONSONANT_SIGN_G&K&NG&D&N&B&M&R&L&
  SH*&-AiSIGN_ANUSVARAnVISARGAiGEMINATION_MARKiSUBJOINERiMARK_TSHEGnSHADnDOUBLE_SHADnPLUTAiHEAD_MA
  RK@MOON/SUN/TRIPLE_FLAME~FLAME<iTERMINAL_MARK-1w2=11AB0aCANADIAN_SYLLABICS_NATTILIK_HI*I&O*O&A*A
  %SHRI,I+O,O+A,AtSPEvIvOvAaPAU_CIN_HAU:PAtKAtLAtMAtDAtZAtVAtNGAtHAtGAtKHAtSAtBAtCAtTAuHAtNAtPHAtR
  AtFAtCHAtAtEtItOtUuAtIAtFINAL_PzKzTzMzNzLzWzNGzYmRISING_TONE_LONGxmSANDHI_GLOTTAL_STOPmRISING_TO
  NE_LONG_FINALyFINALmSANDHI_GLOTTAL_STOP_FINALtTONE_LONGxx_LONG_FINALyFINALmMID-LEVEL_TONEmGLOTTA
  L_STOP_VARIANTmMID-LEVEL_TONE_LONG_FINAL$FINALmLOW-FALLING_TONE_LONG%mGLOTTAL_STOPmLOW-FALLING_T
  ONE_LONG_FINAL&FINALmGLOTTAL_STOP_FINAL=11C00aBHAIKSUKI:AsArIsIrUsUrVOCALIC_R!RzL=11C0ArErAIrOrA
  UrKAsHArGAsHArNGArCAsHArJAsHArNYArTTAtHArDDAtHArNNArTAsHArDAsHArNArPAsHArBAsHArMArYArRArLArVArSH
  AsSAsArHAkVOWEL_SIGN_AAvIwIvUwUvVOCALIC_R*R&L=11C38vEvAIvOvAUkSIGN_CANDRABINDUpANUSVARApVISARGAr
  RAMApAVAGRAHAkDANDAlOUBLE_DANDAkWORD_SEPARATORkGAP_FILLER-1v2=11C50kDIGIT_ZEROqONEqTWOrHREEqFOUR
  rIVEqSIXrEVENqEIGHTqNINEkNUMBER_ONErTWOsHREErFOURsIVErSIXsEVENrEIGHTrNINErTENsWENTYsHIRTYrFORTYs
  IFTYrSIXTYsEVENTYrEIGHTYrNINETYkHUNDREDS_UNIT_MARK=11C70aMARCHEN_HEAD_MARKiMARK_SHADiLETTER_KAqH
  ApGApNGApCAqHApJApNYApTAqHApDApNApPAqHApBApMApTSArHApDZApWApZHAqAp-ApYApRApLApSHAqApHApA=11C92iS
  UBJOINED:KA!HAzGAzNGAzCA!HAzJAzNYAzTA!HAzDAzNAzPA!HAzBAzMAzTSA$HAzDZAzWAzZHA!A=11CA9zYAzRAzLAzSH
  A!AzHAzAiVOWEL_SIGN_AAtItUtEtOiSIGN_ANUSVARAnCANDRABINDU=11D00cSARAM_GONDI:AwAvIwIvUwUvE=11D08vA
  IvO=11D0BvAUvKAwHAvGAwHAvNGAvCAwHAvJAwHAvNYAvTTAxHAvDDAxHAvNNAvTAwHAvDAwHAvNAvPAwHAvBAwHAvMAvYAv
  RAvLAvVAvSHAwSAwAvHAvLLAvKSSAvJNYAvTRAoVOWEL_SIGN_AAzI!IzU!UzVOCALIC_R=11D3AzE=11D3CzAIzO=11D3Fz
  AUoSIGN_ANUSVARAtVISARGAtNUKTAtCANDRAtHALANTAoVIRAMAoREPHApA-KARA=11D50oDIGIT_ZEROuONEuTWOvHREEu
  FOURvIVEuSIXvEVENuEIGHTuNINE=11D60aGUNJALA_GONDI:AwAvIwIvUwU=11D67vEEvAI=11D6AvOOvAUvYAvVAvBAwHA
  vMAvKAwHAvTAwHAvLAvGAwHAvDAwHAvNAvCAwHAvTTAxHAvLLAvJAwHAvDDAxHAvNGAvPAwHAvHAvRAvSAoVOWEL_SIGN_AA
  zI!IzU!U=11D90zEEzAI=11D93zOOzAUoSIGN_ANUSVARAtVISARGAoVIRAMAoOM=11DA0oDIGIT_ZEROuONEuTWOvHREEuF
  OURvIVEuSIXvEVENuEIGHTuNINE=11EE0aMAKASAR:KApGApNGApPApBApMApTApDApNApCApJApNYApYApRApLApVApSApA
  iANGKAiVOWEL_SIGN_ItUtEtOiPASSIMBANGiEND_OF_SECTION=11FB0aLISU:YHA=11FC0aTAMIL_FRACTION_ONE_THRE
  E-HUNDRED-AND-TWENTIETHtONE-HUNDRED-AND-SIXTIETHtEIGHTIETHtSIXTY-FOURTHtFORTIETHtTHIRTY-SECONDpT
  HREE_EIGHTIETHSvSIXTY-FOURTHSpONE_TWENTIETHtSIXTEENTH-1&2tTENTHtEIGHTHpTHREE_TWENTIETHSvSIXTEENT
  HSpONE_FIFTHtQUARTERtHALF-1y2pTHREE_QUARTERSpDOWNSCALING_FACTOR_KIIZHgSIGN_NELlCEVITUlAAZHAAKKUl
  UZHAKKUlMUUVUZHAKKUlKURUNIlPATHAKKUlMUKKURUNIlKAACUlPANAMmONlVARAAKANlPAARAMlKUZHIlVELIgWET_CULT
  IVATION_SIGNgDRY_CULTIVATION_SIGNgLAND_SIGNgSALT_PAN_SIGNgTRADITIONAL_CREDIT_SIGNsNUMBER_SIGNgCU
  RRENT_SIGNgAND_ODD_SIGNgSPENT_SIGNgTOTAL_SIGNgIN_POSSESSION_SIGNgSTARTING_FROM_SIGNhIGN_MUTHALIY
  AlVAKAIYARAA=11FFFgPUNCTUATION_END_OF_TEXTaCUNEIFORM_SIGN_Aq_TIMES_AxBADxGAN2_TENUxHAxIGIxLAGAR_
  GUNUxMUSHxSAGq2qBr_TIMES_ASH2yDUN3_GUNUyGAL!N2_TENUyHAyIGI_GUNUzMINyLAGABySHESHyU_PLUS_U_PLUS_Us
  GUNUr2s_TIMES_BALAGzGAN2_TENUzME_PLUS_ENzSHA3zTAK4qDqKr_TIMES_ERIN2ySHITA_PLUS_GISHqLr_TIMES_ALy
  DIM2yGISHyHAyKAD3zIySHEyUSHrANrEPHqMARt_TIMES_SHEqNr_OVER_ANsTHREE_TIMESsPLUS_NAGA_OPPOSING_AN_P
  LUS_NAGA%SQUAREDrSHEqPINqRADt_TIMES_KURrKABqSAL2rHs_ZIDA_TENUtKABA_TENUtOVER_ASH_TUG2_OVER_TUG2_
  TUG2_OVER_TUG2_PAP%OVER_ASH>_CROSSING_ASH_OVER_ASH_OVER_ASHs2sGABpBArDrG3rHAR2rLs_OVER_BALsAGrRs
  A2qIr_TIMES_AyGARyIGI_GUNUqUr_OVER_BU_AB!UNsCROSSING_BUrLUGu_OVER_BULUGrRs2pDArGs_KISIM5_TIMES_A
  _PLUS_MASH.MAR,BALAG.I,GA;_PLUS_MASH.I;R2.UD,HA,IR;_PLUS_LU,KAK,LA.U;_PLUS_MASH2;M,NE,PAP_PLUS_P
  AP,SI,TAK4,U2_PLUS_GIR2.SHrMrRsA3t4qIrBrMs_TIMES_SHEs2rNs_KASKAL_U_GUNU_DISHrSHqUr_OVER_DUsGUNUs
  SHESHIGrBs_TIMES_ESH2s2rGsUDrHrNs3t_GUNUy_GUNUs4rR2pEq_TIMES_PAPrOVER_E_NUN_OVER_NUNq2r_TIMES_A_
  PLUS_HA_PLUS_DAyGARyMIySALzHEyUqDINqGIRqLqNr_TIMES_GAN2%_TENUyMEsCROSSING_ENsOPPOSING_ENsSQUARED
  qRENrIN2qSH2qZENt_TIMES_A$_PLUS_LAL>_TIMES_LAL$N!BAD!DUN3_GUNU<_GUNU!HA%_GUNU!IGI_GUNU!KASKAL,_S
  QUARED$U3!LA%L_TIMES_LAL$I$U!U2$DpGAr_GUNUr2s_TIMES_A_PLUS_DA_PLUS_HA,HA,IGI!B2_TENU_PLUS_TAB!N!
  SH%2_PLUS_GALzBAD$R_PLUS_RA!UR%_PLUS_RAzDA!I$M_TIMES_SHE!UBzEL$_PLUS_LA!N$_TIMES_GAN2_TENUzGAN2_
  TENU$R!I$4%_PLUS_A$R2_PLUS_SUzHA_PLUS_LU_PLUS_ESH2$L%_PLUS_LA!I_PLUS_LI!UB2zIGI_GUNU!SH_PLUS_HU_
  PLUS_ASHzKAK$SKAL!ID%_PLUS_LAL!U3_PLUS_ANzLAzME_PLUS_EN!IzNUN%_OVER_NUNzPAzSAL$R!HE%_PLUS_TUR$ID
  !UMzTAK4zU!D$_PLUS_DUtOVER_GA2rBAt_CROSSING_GABArDs_OVER_GAD_GAR_OVER_GARrLs_GAD_OVER_GAD_GAR_OV
  ER_GARsAMrMrNs2t_TENUuOVER_GAN2uCROSSING_GAN2rRs3rSHANqESHTINw_TIMES_KURqIr_TIMES_EyUsCROSSING_G
  Ir4s_OVER_GI4tCROSSING_GI4rDIMrR2t_GUNUs3t_TIMES_A_PLUS_IGI!GAN2_TENU!IGI!LU_PLUS_IGI!PArSALsHt_
  CROSSING_GISHuTIMES_BAD!TAK4vENUqUr_CROSSING_GUr2s_TIMES_KAK%_TIMES_IGI_GUNUzNUNzSAL_PLUS_TUG2tG
  UNUrDs_TIMES_A_PLUS_KURzKURtOVER_GUD_LUGALrLrMs_TIMES_SHErRs7sUNtSHpHAr_TENUsGUNUrLqIr_TIMES_ASH
  $2yBADyDISHyGADyKINyNUNySHEyUqUrB2t_TIMES_AN!HAL!KASKAL!LISH!UDrL2pIq_AqBqDIMt_OVER_IDIM_BUR*SQU
  AREDqGrIs_DIBtRItOVER_IGI_SHIR_OVER_SHIR_UD_OVER_UDtGUNUqLr_TIMES_GAN2_TENUr2qMr_TIMES_TAK4sCROS
  SING_IMsOPPOSING_IMsSQUAREDrINqNqRqSHpKAr_TIMES_AzD!_PLUS_KU3zSH2yBAD!LAG!RzIyERIN2zSH2yGA!L!N2_
  TENU!R$_PLUS_SHA3_PLUS_AzI!R2!SH_PLUS_SAR&CROSSING_GISHzU!R7yIGIzMyKAKzI!DyLIzUyME!_PLUS_DU,GI,T
  EzI!_PLUS_NUNUZyNEzUNyPIyRUySA!RzHA!E!ID!UzIGzUHURyTARyUz2zDzMUM_TIMES_PAzSHyZIr2s_CROSSING_KA2r
  BrD2s3s4s5t_OVER_KAD5rKs_TIMES_IGI_GUNUrLs_TIMES_BADtCROSSING_KALrM2s4rSKALv_LAGAB_TIMES_U_OVER_
  LAGAB_TIMES_UwOVER_KASKAL_LAGAB_TIMES_U_OVER_LAGAB_TIMES_UqESH2qIr_TIMES_BADyUzDrDrNrSALsHsIM5v_
  OVER_KISIM5qUr_OVER_HI_TIMES_ASH2_KU_OVER_HI_TIMES_ASH2r3r4s_VARIANT]r7rLs_GUNUrNrRs_OPPOSING_KU
  RrSHU2qWU318pLArGABu_TIMES_A%_PLUS_DA_PLUS_HA;GAR;LAL%L%N%SH_ZIDA_TENU$BAD%I$DAR$EN$GA&R%UD*_PLU
  S_GUD$HA&L%I_TIMES_NUN$IGI_GUNU%M&_PLUS_HA<LU$KI&N%U3&L*_PLUS_HI_PLUS_A$LAGAB%ISH%U&L$ME&_PLUS_E
  N%USH$NE$SHE_PLUS_SUM&ITA_PLUS_GISH_PLUS_ERIN2~SH_TENU&U2+_PLUS_SHU2%UM$TAG&K4%E_PLUS_A_PLUS_SU_
  PLUS_NA$U%_PLUS_A;U_PLUS_U%2_PLUS_ASH%D%SHvSQUAREDtRu_TIMES_SHE*_PLUS_SUMvGUNUz_OVER_LAGAR_GUNU_
  SHErHSHUrLs_TIMES_LALrMs_TIMES_KUR%_PLUS_RUqIrLrMMU2rSHqUr_TIMES_BADr2s_TIMES_ALzBADzESH2&_TENUz
  GAN2_TENUzHI_TIMES_BADzIMzKAD2%3&_PLUS_ASH!IzLA_PLUS_ASH$GABzME_PLUS_ENzNE!UzSI_PLUS_ASH$K2_PLUS
  _BUzTUG2uENUtCROSSING_LU2tOPPOSING_LU2tSQUAREDuHESHIGr3rGALu_OVER_LUGALwPPOSING_LUGALvSHESHIGrHr
  LrMs_OVER_LUM$_GAR_OVER_GARpMAr_TIMES_TAK4sGUNUr2rHrRrSHt2qErSqIrNqUr_OVER_MUrGs_GUNUrNSUBrRGU2r
  SHt_TIMES_A!KUR!ZAuOVER_MUSH&_TIMES_A_PLUS_NAuCROSSING_MUSHt3u_TIMES_A%_PLUS_DI$DIvGUNUpNAr2rGAt
  _INVERTEDuTIMES_SHU_TENUuOPPOSING_NAGAtRrM_NUTILLUss2qEr_TIMES_AyUDsSHESHIGqIr_TIMES_Er2rMs_TIME
  S_GAN2_TENU$R_PLUS_GAN2_TENUrNDA2v_TIMES_AN&SH+_PLUS_ASH%GUD%ME_PLUS_GAN2_TENU%NE&UN%SHE+_PLUS_A
  _AN^SH~_PLUS_ASH%U2_PLUS_ASH&SHrSAGqUr11rNs_LAGAR_TIMES_GAR+MASH+SAL;_OVER_NUN_LAGAR_TIMES_SAL+U
  SHtTENUtOVER_NUNtCROSSING_NUN+_LAGAR_OVER_LAGARsUZu_AB2_TIMES_ASHGAB+BI+DUG+GUD+IGI_GUNU+KAD3+LA
  +NE+SILA3+U2vKISIM5_TIMES_BI>_UpPArDrNrPqESH2qIr_TIMES_AzByBIzUyEyIzByUz2sCROSSING_PIrRIGu_TIMES
  _KAL$UD$ZAvOPPOSING_PIRIGpRArBqIqUpSArG_NUTILLUss_TIMES_AzDU$BzHAzKAK!URzLUMzMIzNUNzSAL!HIDzTABz
  U2!B!M!R!SHtOVER_SAGtGUNUrLs_LAGAB_TIMES_ASH2rNGA2rRqHAs3t_TIMES_A!BAD!GISH!NE!SHU2!TUR!U$_PLUS_
  As6sB6sR2rEs_HUtOVER_SHE_GAD_OVER_GAD_GAR_OVER_GAR%TAB_OVER_TAB_GAR_OVER_GARsG9sNsSHu2uLAMrIDt_T
  IMES_A!IMsMt_TIMES_A!BAL$ULUG!DIN!GAR!IGI&_GUNU!KUSHU2!LUL!MUG!SALsNIGsRt_TENUuOVER_SHIR_BUR_OVE
  R_BURsTArUs_OVER_INVERTED_SHUs2sBURqIr_GUNUrGs4t_OVER_SIG4_SHU2rK2rLA3qUr_OVER_SUrDs2rHURrMsASHr
  Rs9pTAr_ASTERISKsTIMES_HIyMIsGUNUrBs_OVER_TAB_NI_OVER_NI_DISH_OVER_DISHtSQUAREDrGs_TIMES_BIzGUDz
  SHE$UzTUG2zUDrK4rRqEr_GUNUqIr_TENUrLrRs_TIMES_TAK4tOVER_TIR$_GAD_OVER_GAD_GAR_OVER_GARqUrG2rKrMr
  Rs_OVER_TUR_ZA_OVER_ZApUq_GUDrU_UrOVER_U_PA_OVER_PA_GAR_OVER_GARySUR_OVER_SURyU_REVERSED_OVER_U_
  REVERSEDq2qBqDr_KUSHU2sTIMES_BADyMIyU_PLUS_U_PLUS_U|_GUNUsGUNUsSHESHIGz_TIMES_BADrUGqMr_TIMES_LA
  GAByME_PLUS_DAySHA3yUrBINrUMt_TIMES_KASKAL!PAqNr_GUNUqRr_CROSSING_URsSHESHIGr2s_TIMES_A_PLUS_HA,
  NA!LzHAzNUNzU2$_PLUS_ASH.BIr4rIs3rUs_TIMES_A!SHGABzBARzDUNzGA$L$N2_TENU$R!UzHAzIGI!M!SHzKIzLUMzM
  INzPAzSHE!IG4zTUzU_PLUS_GUD!D!RUDAsDAu_TIMES_UqSHs_TIMES_AzKU$RzTAK4sXs2sUMXqTUKIqZ3s_TIMES_KASK
  ALrUpZAr_TENUsSQUARED_TIMES_KURrGrMXqE2qIr_OVER_ZIr3rBs_KABA_TENUrGrZ2qUr5s_TIMES_ArBURrMpKAP_EL
  AMITEpAB_TIMES_NUNr2_TIMES_AqMAR_TIMES_KUGpDAG_KISIM5_TIMES_U2_PLUS_MASHs3qISH_PLUS_SHUqUB_TIMES
  _SHEpEZEN_TIMES_GUD!SHEpGA2_TIMES_AN_PLUS_KAK_PLUS_A!SH2qE22qIGpHUSHpKA_TIMES_ANSHEzSH3yGISHzUDy
  HI_TIMES_ASH2yLUMyPAySHULyTUyUR2pLAGAB_TIMES_GIqU2_SHESHIG_TIMES_BADtTIMES_ESH2_PLUS_LALzSHUpMES
  HqUSH3_TIMES_ZApNA4qINs9sDA2_TIMES_BAL%GIqU11_ROTATED_NINETY_DEGREESpPESH2_ASTERISKqIR2pSAG_TIME
  S_IGI_GUNUpTI2pUM_TIMES_MEq_U=12400kNUMERIC_SIGN_TWO_ASHyHREE_ASHxFOUR_ASHyIVE_ASHxSIX_ASHyEVEN_
  ASHxEIGHT_ASHxNINE_ASHxTHREE_DISHxFOUR_DISHyIVE_DISHxSIX_DISHyEVEN_DISHxEIGHT_DISHxNINE_DISHxFOU
  R_UyIVE_UxSIX_UyEVEN_UxEIGHT_UxNINE_UxONE_GESH2xTWO_GESH2yHREE_GESH2xFOUR_GESH2yIVE_GESH2xSIX_GE
  SH2yEVEN_GESH2xEIGHT_GESH2xNINE_GESH2xONE_GESHUxTWO_GESHUyHREE_GESHUxFOUR_GESHUyIVE_GESHUxTWO_SH
  AR2yHREE_SHAR2;_VARIANT]xFOUR_SHAR2yIVE_SHAR2xSIX_SHAR2yEVEN_SHAR2xEIGHT_SHAR2xNINE_SHAR2xONE_SH
  ARUxTWO_SHARUyHREE_SHARU;_VARIANT]xFOUR_SHARUyIVE_SHARUxSHAR2_TIMES_GAL_PLUS_DISH~LUS_MINxONE_BU
  RUxTWO_BURUyHREE_BURU._VARIANT]xFOUR_BURUyIVE_BURUxTHREE_VARIANT]_ESH16~M_ESH21xFOUR_VARIANT]_LI
  MMU~_LIMMU4~_LIMMU_A~_LIMMU_BxSIX_VARIANT]_ASH9yEVEN_VARIANT]_IMIN3~M_IMIN_A~M_IMIN_BxEIGHT_VARI
  ANT]_USSU~M_USSU3xNINE_VARIANT]_ILIMMU~_ILIMMU3~_ILIMMU4~_ILIMMU_AxTWO_ASH_TENUyHREE_ASH_TENUxFO
  UR_ASH_TENUyIVE_ASH_TENUxSIX_ASH_TENUxONE_BAN2xTWO_BAN2yHREE_BAN2xFOUR_BAN2,_VARIANT]yIVE_BAN2,_
  VARIANT]xNIGIDAMIN&ESHxONE_ESHE3xTWO_ESHE3xONE_THIRD_DISHxTWO_THIRDS_DISHxFIVE_SIXTHS_DISHxONE_T
  HIRD_VARIANT]_AxTWO_THIRDS_VARIANT]_AxONE_EIGHTH_ASH$QUARTER_ASHyLD_ASSYRIAN_ONE_SIXTH~QUARTERyN
  E_QUARTER_GUR$HALF_GURxELAMITE_ONE_THIRD+TWO_THIRDS+FORTY,IFTYxFOUR_U_VARIANT]yIVE_U_VARIANT]xSI
  X_U_VARIANT]yEVEN_U_VARIANT]xEIGHT_U_VARIANT]xNINE_U_VARIANT]=12470kPUNCTUATION_SIGN_OLD_ASSYRIA
  N_WORD_DIVIDER$VERTICAL_COLON$DIAGONAL_COLON>TRICOLON>QUADCOLON=12480kSIGN_AB_TIMES_NUN_TENUySHU
  2qD_TIMES_ESH2pBAD_TIMES_DISH_TENUrHAR2_TIMES_AB2%NI%ZAqU_OVER_BU_TIMES_NA2pDA_TIMES_TAK4rG_TIME
  S_KURqIM_TIMES_IGIzU_U_Us2_TIMES_UDqUG_TIMES_ANSHE!SH%_AT_LEFTzDIN!UNzERIN2zGA!I$R2_GUNU$SHzHA!I
  zIGI_GUNUzKASKAL!UR$SHU2+_PLUS_KASKALzLAK-020$M%_TIMES_KUR!UH_PLUS_GISHzMASH!ES!IzNIzPIzSHE!I_GU
  NUpE2_TIMES_KURyPAPqRIN2_XqSH2_CROSSING_ESH2qZEN_SHESHIG_TIMES_ASH;HI;IGI_GUNU;LA>L;ME>S;SUuTIME
  S_SUpGA2_TIMES_BAHAR2zDIM_GUNU!UG_TIMES_IGI_GUNU<KASKALzERENzGA$R_PLUS_DI;NEzHA_PLUS_AzKUSHU2_PL
  US_KASKALzLAM%_TIMES_KUR!UHzMUSHzNE$_PLUS_E2.GIzSHIMzZIZ2rBA_ROTATED_NINETY_DEGREESqESHTIN_TIMES
  _UqISH_TIMES_GISH_CROSSING_GISHqU2_TIMES_IGI_GUNUrD_PLUS_GISH_TIMES_TAK4pHA_TENU_GUNUqI_TIMES_AS
  H_OVER_HI_TIMES_ASHpKA_TIMES_BUyKAyU_U_UzRpLAGAB_TIMES_ZU_OVER_ZUrK-003u21v5u30u50v1u62u79_OVER_
  LAK-079_GUNUu80v1_OVER_LAK-081u92t130u42t210v9u20v5v8u38u65v6t343v7v8u83v4u90t441v9w_TIMES_GU&IG
  I&PAP_PLUS_LU3^PAP_PLUS_LU3&U2_PLUS_BAu50v7u70u83u90v2v3v5t550t608u17w_TIMES_ASH&BAD&DUN3_GUNU_G
  UNU&KU3&LA&TAR*E&U2*D*RUDAu36u48w_TIMES_DUB&GA&IGI,_GUNU&NI&PAP_PLUS_PAP_PLUS_LU3&SHESH_PLUS_KI&
  UD*RUDAt724u49qU2_GUNU_TIMES_ASHtTIMES_DISHzHALzPAP%_PLUS_PAP_PLUS_LU3zTAK4pMI_PLUS_ZA7qUSH_OVER
  _MUSH_TIMES_GA>KAKpNINDA2_TIMES_DIM_GUNU%GISH&UL%HI%KESH2%LAK-050%MASH%PAP_PLUS_PAP%U&_PLUS_U&RU
  DApSAG_GUNU_TIMES_HAtTIMES_ENzSHE_AT_LEFTzTAK4qHA6_TENUrE_OVER_SHEtPLUS_HUB2yNAM2ySARrU2_PLUS_DU
  G_TIMES_NIzE2_TIMES_ANqI_TIMES_TAK4pTAK4_PLUS_SAGqUM_TIMES_GAN2_TENUzTHREE_DISHpUR2_INVERTEDtTIM
  ES_UDrU_TIMES_DARA3zLAK-668!U3pZA7qU_OVER_ZU_PLUS_SARr5_TIMES_THREE_DISH_TENU=12F90bYPRO-MINOAN_
  SIGN_CM001w2w4w5w6w7w8w9v10w1w2xBw3w5w7w9v21w3w4w5w6w7w8w9v30w3w4w5w6w7w8w9v40w1w4w6w7w9v50w1w2w
  3w4w5w6w8w9v60w1w2w3w4w6w7w8w9v70w1w2w3w4w5xBw6w8w9v80w1w2w3w4w5w6w7w8w9v90w1w2w4w5w6w7w8w9u100w
  1w2w3w4w5w7w8w9v10w2w4u301w2=13000aEGYPTIAN_HIEROGLYPH_A001x2x3x4x5yAx6yAyBx7x8x9w10x1x2x3x4yAx5
  x6x7yAx8x9w20x1x2x3x4x5x6x7x8x9w30x1x2yAx3x4x5x6x7x8x9w40yAx1x2yAx3yAx4x5yAx6x7x8x9w50x1x2x3x4x5
  x6x7x8x9w60x1x2x3x4x5x6x7x8x9w70uB001x2x3x4x5yAx6x7x8x9uC001x2yAyByCx3x4x5x6x7x8x9w10yAx1x2x3x4x
  5x6x7x8x9w20x1x2x3x4uD001x2x3x4x5x6x7x8yAx9w10x1x2x3x4x5x6x7x8x9w20x1x2x3x4x5x6x7yAx8x9w30x1yAx2
  x3x4yAx5x6x7x8x9w40x1x2x3x4x5x6yAx7x8yAx9w50yAyByCyDyEyFyGyHyIx1x2yAx3x4yAx5x6x7x8x9w60x1x2x3x4x
  5x6x7yAyByCyDyEyFyGyHuE001x2x3x4x5x6x7x8yAx9yAw10x1x2x3x4x5x6yAx7yAx8x9w20yAx1x2x3x4x5x6x7x8yAx9
  w30x1x2x3x4yAx6x7x8uF001yAx2x3x4x5x6x7x8x9w10x1x2x3yAx4x5x6x7x8x9w20x1yAx2x3x4x5x6x7x8x9w30x1yAx
  2x3x4x5x6x7yAx8yAx9w40x1x2x3x4x5yAx6yAx7yAx8x9w50x1yAyByCx2x3uG001x2x3x4x5x6yAx7yAyBx8x9w10x1yAx
  2x3x4x5x6x7x8x9w20yAx1x2x3x4x5x6yAx7x8x9w30x1x2x3x4x5x6yAx7yAx8x9w40x1x2x3yAx4x5yAx6x7x8x9w50x1x
  2x3x4uH001x2x3x4x5x6yAx7x8uI001x2x3x4x5yAx6x7x8x9yAw10yAx1yAx2x3x4x5uK001x2x3x4x5x6x7x8uL001x2yA
  x3x4x5x6yAx7x8uM001yAyBx2x3yAx4x5x6x7x8x9w10yAx1x2yAyByCyDyEyFyGyHx3x4x5yAx6yAx7yAx8x9w20x1x2yAx
  3x4yAx5x6x7x8yAx9w30x1yAx2x3yAyBx4x5x6x7x8x9w40yAx1x2x3x4uN001x2x3x4x5x6x7x8x9w10x1x2x3x4x5x6x7x
  8yAyBx9w20x1x2x3x4x5yAx6x7x8x9w30x1x2x3yAx4yAx5yAx6x7yAx8x9w40x1x2vL001y2y3y4y5zAy6y7y8y9x10y1y2
  y3y4y5y6y7zAy8y9x20vU001y2y3y4y5y6y7y8y9x10zAy1zAy2y3y4y5y6y7y8zAy9x20y1y2zAuO001yAx2x3x4x5yAx6y
  AyByCyDyEyFx7x8x9w10yAyByCx1x2x3x4x5x6x7x8x9yAw20yAx1x2x3x4yAx5yAx6x7x8x9yAw30yAx1x2x3yAx4x5x6yA
  yByCyDx7x8x9w40x1x2x3x4x5x6x7x8x9w50yAyBx1uP001yAx2x3yAx4x5x6x7x8x9w10x1uQ001x2x3x4x5x6x7uR001x2
  yAx3yAyBx4x5x6x7x8x9w10yAx1x2x3x4x5x6yAx7x8x9w20x1x2x3x4x5x6x7x8x9uS001x2yAx3x4x5x6yAx7x8x9w10x1
  x2x3x4yAyBx5x6x7yAx8x9w20x1x2x3x4x5x6yAyBx7x8x9w30x1x2x3x4x5yAx6x7x8x9w40x1x2x3x4x5x6uT001x2x3yA
  x4x5x6x7yAx8yAx9yAw10x1yAx2x3x4x5x6yAx7x8x9w20x1x2x3x4x5x6x7x8x9w30x1x2yAx3yAx4x5x6uU001x2x3x4x5
  x6yAyBx7x8x9w10x1x2x3x4x5x6x7x8x9w20x1x2x3yAx4x5x6x7x8x9yAw30x1x2yAx3x4x5x6x7x8x9w40x1x2uV001yAy
  ByCyDyEyFyGyHyIx2yAx3x4x5x6x7yAyBx8x9w10x1yAyByCx2yAyBx3x4x5x6x7x8x9w20yAyByCyDyEyFyGyHyIyJyKyLx
  1x2x3yAx4x5x6x7x8yAx9yAw30yAx1yAx2x3yAx4x5x6x7yAx8x9w40yAuW001x2x3yAx4x5x6x7x8x9yAw10yAx1x2x3x4y
  Ax5x6x7yAx8yAx9w20x1x2x3x4yAx5uX001x2x3x4yAyBx5x6yAx7x8yAuY001yAx2x3x4x5x6x7x8uZ001x2yAyByCyDx3y
  AyBx4yAx5yAx6x7x8x9w10x1x2x3x4x5yAyByCyDyEyFyGyHyIx6yAyByCyDyEyFyGyHuAA001y2y3y4y5y6y7zAzBy8y9x1
  0y1y2y3y4y5y6y7y8y9x20y1y2y3y4y5y6y7y8y9x30y1y2=13430uVERTICAL_JOINERuHORIZONTAL_JOINERuINSERT_A
  T_TOP_START*BOTTOM_START*TOP_END*BOTTOM_ENDuOVERLAY_MIDDLEuBEGIN_SEGMENTuEND_SEGMENT=14400aANATO
  LIAN_HIEROGLYPH_A001y2y3y4y5y6y7y8y9x10zAy1y2y3y4y5y6y7y8y9x20y1y2y3y4y5y6zAy7y8y9x30y1y2y3y4y5y
  6y7y8y9zAx40y1zAy2y3y4y5zAy6zAzBy7y8y9x50y1y2y3y4y5y6y7y8y9x60y1y2y3y4y5y6zAzBzCy7y8y9x70y1y2y3y
  4y5y6y7y8y9x80y1y2y3y4y5y6y7y8y9x90y1y2y3y4y5y6y7zAy8zAy9w100zAy1zAy2zAy3y4zAzBzCy5zAzBy6y7zAzBz
  Cy8y9x10zAzBy1y2y3y4y5zAy6y7y8y9x20y1y2y3y4y5zAy6y7y8y9x30y1y2y3y4y5zAy6y7y8y9x40y1y2y3y4y5y6y7y
  8y9x50y1y2y3y4y5y6y7y8y9x60y1y2y3y4y5y6y7y8y9x70y1y2y3y4y5y6y7y8y9x80y1y2y3y4y5y6y7y8y9x90y1y2y3
  y4y5y6y7y8y9w200y1y2zAzBy3y4y5y6y7zAy8y9zAx10y1y2y3y4y5zAy6zAy7y8y9x20y1y2y3y4y5y6y7zAy8y9x30y1y
  2y3y4y5y6y7y8y9x40y1y2y3y4y5y6y7y8y9x50y1y2y3y4y5y6y7y8y9x60y1y2y3y4y5y6y7zAy8y9x70y1y2y3y4y5y6y
  7y8y9x80y1y2y3y4y5y6y7y8y9zAx90y1y2y3y4zAy5y6y7y8y9zAw300y1y2y3y4y5y6y7y8y9zAx10y1y2y3y4y5y6y7y8
  y9x20y1y2y3y4y5y6y7y8y9zAx30y1y2AzBzCy3y4y5y6zAzBzCy7y8y9x40y1y2y3y4y5y6y7y8y9x50y1y2y3y4y5y6y7y
  8y9zAx60y1y2y3y4zAy5y6y7y8zAy9x70y1zAy2y3y4y5y6y7y8y9x80y1zAy2y3_RA_OR_RIzAy4y5y6zAy7y8y9x90y1y2
  y3_EIGHTy4y5y6y7y8y9w400y1y2y3y4y5y6y7y8y9x10_BEGIN_LOGOGRAM_MARKzA_END_LOGOGRAM_MARKy1y2y3y4y5y
  6y7y8y9x20y1y2y3y4y5y6y7y8y9x30y1y2y3y4y5y6y7y8y9x40y1y2y3y4y5y6y7y8y9x50zAy1y2y3y4y5y6y7zAy8y9x
  60y1y2y3y4y5y6y7y8y9x70y1y2y3y4y5y6y7y8y9x80y1y2y3y4y5y6y7y8y9x90y1y2y3y4y5y6y7w501y2y3y4y5y6y7y
  8y9x10y1y2y3y4y5y6y7y8y9x20y1y2y3y4y5y6y7y8y9x30=16800aBAMUM:PHASE-A_NGKUE_MFONvGBIEE_FONvPON_MF
  ON_PIPAEMGBIEE>BAvNAA_MFONvSHUENSHUETvTITA_MFONvNZA_MFONvSHINDA_PA_NJIvPON_PA_NJI_PIPAEMGBIEE^BA
  vMAEMBGBIEEvTU_MAEMBAvNGANGUvMAEMVEUXxNSUAEwVEUAENGAMvSEUNYAMvNTOQPENvKEUKEUTNDAvNKINDIvSUUvNGKU
  ENZEUMvLAPAQwET_KUTvNTAP_MFAAvMAEKEUPvPASHAEvGHEUAERAEvPAMSHAEvMON_NGGEUAETvNZUN_MEUTvU_YUQ_NAEv
  GHEUAEGHEUAEvNTAP_NTAAvSISAvMGBASAwEUNJOMNDEUQwOOMPUQvKAFAvPA_LEERAEWAvNDA_LEERAEWAvPETvMAEMKPEN
  vNIKAvPUPvTUAEPvLUAEPvSONJAMvTEUTEUWENvMAENYIvKETvNDAANGGEUAETvKUOQvMOOMEUTvSHUMvLOMMAEvFIRIvROM
  vKPOQvSOQvMAP_PIEETvSHIRAEvNTAPvSHOQ_NSHUT_YUMvNYIT_MONGKEUAEQvPAARAEvNKAARAEvUNKNOWNvNGGENvMAES
  IvNJAMvMBANYIvNYETvTEUAENvSOTvPAAMvNSHIEEvMAEMvNYIvKAQvNSHAvVEEvLUvNENwAQvMBAQtB_NSHUETvTU_MAEMG
  BIEEvSIEEwET_TUvLOM_NTEUMvMBA_MAELEEvKIEEMvYEURAEvMBAARAEvKAMvPEESHIvYAFU_LEERAEWAvLAM_NSHUT_NYA
  MvNTIEE_SHEUOQwDU_NJAAvGHEUGHEUAEMvPITvTU_NSIEEvSHET_NJAQyUAEQTUvMFON_TEUAEQwBIT_MBAAKETvNYI_NTE
  UMvKEUPUQvGHEUGHENvKEUYEUXvLAANAEvPARUMvVEUMvNGKINDI_MVOPxGEU_MBUvWUAETvSAKEUAEvTAAMvMEUQvNGGUOQ
  $_LARGEvMFIYAQvSUEvMBEURIwONTIEENvNYAEMAEvPUNGAAMvMEUT_NGGEETvFEUXvMBUOQvFEEvKEUAEMvMA_NJEUAENA!
  UQAvLETvNGGAAMwSENvMAvKIQvNGOMtC_NGKUE_MAEMBAwZAvYUMvWANGKUOQvNGGENwDEUAEREEwGKAQvGHARAEvMBEEKEE
  TvGBAYIvNYIR_MKPARAQ_MEUNwTU_MBITvMBEUMvPIRIEENvNDOMBUvMBAA_CABBAGE-TREEvKEUSHEUAEPvGHAPvKEUKAQv
  YU_MUOMAEvNZEUMvMBUEvNSEUAENvMBITvYEUQvKPARAQwAAvSEUXvNDIDAvTAASHAEvNJUEQvTITA_YUEvSUAETvNGGUAEN
  _NYAMvVEUXvNANSANAQvMA_KEUAERIvNTAAwGGUONvLAPvMBIRIEENwGBASAQvNTEUNGBAvTEUTEUXvNGGUMvFUEvNDEUTwS
  AxHAQvBUNGvVEUAEPENvMBERAEvRUvNJAEMvLAMvTITUAEPvNSUOT_NGOMwJEEEEvKETvNGGUvMAESIwBUAEMvLUvKUTvNJA
  MwGOMvWUPvNGGUEETwSOMwTENvKUOP_NKAARAEvNSUNwDAMvMA_NSIEEvYAAvNDAPvSHUEQwETFONvMBIwAEMBAwBANYIvKE
  USEUXvMBEUXvKEUMvMBAA_PICKETvYUWOQvNJEUXvMIEEwUAEvSHIQvKEN_LAWzFATIGUEvNGAQwAQvLIQvPINwENvTETtD_
  MBUOvWAPvNJIvMFONvNJIEEvLIEEvNJEUTwSHEEwGGAAMAEwYAMvWUAENvNGKUNvSHEEvNGKAPvKEUAETMEUNvTEUTvSHEUA
  EvNJAPvSUEvKETvYAEMMAEvKUOMvSAPvMFEUTvNDEUXvMALEERIwEUTvSEUAEQvYENvNJEUAEMvKEUOT_MBUAEvNGKEURIvT
  UvGHAAvNGKYEEvFEUFEUAETvNDEEvMGBOFUMvLEUAEPvNDONvMONIwGBEUNvPUUTvMGBIEEwFOvLUMvNSIEEPvMBAAvKWAET
  vNYETvTEUAENvSOTvYUWOQvKEUMvRAEMvTEEEEvNGKEUAEQvMFEUAEvNSIEETvKEUPvPIPwEUTAEvNYUEvLETvNGGAAMvMFI
  EEvNGGWAENvYUOMvPAPvYUOPvNDAMwTEUMvSUAEvKUNvNGGEUXxKIEEvTUOTvMEUNvKUQvNSUMvTEUNvMAENJETvNGGAPvLE
  UMvNGGUOMwSHUTwJUEQvGHEUAEvKUvREN_OLDvTAEwOQvNYIvRIIvLEEEEvMEEEEwvSUUvMUvSHIIxEUXvKYEEvNUvSHUvNT
  EEvPEEvNIvSHOQvPUQvMVOPvLOQvREN_MUCHvTIvNTUUvMBAA_SEVENvSAQvFAAtE_NDAPvTOONvMBEUMvLAPvVOMvLOONvP
  AAvSOMvRAQvNSHUOPwDUNvPUAEvTAMvNGKAvKPEUXvWUOvSEEvNGGEUAETvPAAMvTOOvKUOPvLOMvNSHIEEwGOPvMAEMvNGK
  EUXxOQwSHUEvRIMGBAvNJEUXvPEEMvSAAvNGGURAEvMGBAvGHEUXvNGKEUAEMwJAEMLIvMAPvLOOTvNGGEEEEwDIQvTAEN_N
  TEUMvSETvPUMvNDAA_SOFTNESSwGGUAESHAE_NYAMvYIEEvGHEUNvTUAEvYEUAEvPOvTUMAEvKEUAEvSUAENvTEUAEQvVEUA
  EvWEUXvLAAMvPUvTAAQvGHAAMAEvNGEUREUTvSHEUAEQvMGBENwBEEvNZAQwKOMvGBETvTUMvKUETvYAPvNYI_CLEAVERvYI
  TvMFEUQvNDIAQvPIEEQvYUEQvLEUAEMvFUEvGBEUXvNGKUPvKETvMAEvNGKAAMIvGHETvFAvNTUMvPEUTvYEUMvNGGEUAEwY
  I_BETWEENwZUQvPOONvMIEEvFUETvNAEvMUAEvGHEUAEvFU_IvMVIvPUAQvNGKUMvKUTvPIETvNTAPvYEUAETvNGGUPvPA_P
  EOPLEvFU_CALLwOMvNJEEvAvTOQvOvIvLAQvPA_PLURALvTAAxQvNDAA_MY_HOUSEvSHIQvYEUXvNGUAEvYUAENwOQ_SWIMM
  INGzCOVERwUQxNvKEUXvPEUXvNJEE_EPOCHvPUEvWUEvFEEvVEEvLUvMIvREUXwAEvNGUAETxAvSHOyQvFU_REMEDYvNAvPI
  vLOQvKOvMENwAxQvTEUvKIvMONvTENvFAQvGHOMtF_KAvUvKUvEEvREEvTAEvNYIvLAvRIIxEEvMEEEEvTAAvNDAAwJAEMvM
  vSUUwHIIwIwEUXvKYEEwETvNUAExwJUAEvYOQvSHUvYAvNSHAvPEUXvNTEEvWUEvPEEvRUvNIvREUXvKENvNGKWAENxGAvSH
  OvPUAEvFOMvWAvLIwOQvKOvMBENvRENvMAwOwBAAvTETvKPAvSAMBAvVUEQ=16A40aMRO:TAlNGIlYOlMIMlBAlDAlAlPHIl
  KHAIlHAOlDAIlCHUlKEAAElOLlMAEMlNINlPAlOOmlROlSHIlTHEAlEAlWAlElKOlLANnlHAIlRIlTEK=16A60eDIGIT_ZER
  OkONEkTWOlHREEkFOURlIVEkSIXlEVENkEIGHTkNINE=16A6EfANDAfOUBLE_DANDAaTANGSA:OZpCpQpXoAZpCpQpXoVZpC
  pQpXoEZpCpQpXoIZpCpQpXoUZpCpQpXoAWZqCqQqXoUIZqCqQqXoFINAL_NGoLONG_UEXoSHORT_UEZuAWXoUECqZqQqXpIU
  ZrCrQrXoMZpCpQpXoKApHAoGAoNGAoSAoYAoWAoPAoNYAoPHAoBAoMAoNAoHAoLAoHTAoTAoDAoRAoNHAoSHAoCAoTSAoGHA
  oHTTAoTHAoXAoFAoDHAoCHAoZA=16AC0hDIGIT_ZEROnONEnTWOoHREEnFOURoIVEnSIXoEVENnEIGHTnNINE=16AD0aBASS
  A_VAH:ENNIrKArSErFArMBErYIErGAHrDHIIrKPAHrJOrHWAHrWArZOrGBUrDOrCErUWUrTOrBArVUrYEINrPArWADDArArO
  sOrUrEEsrI=16AF0kCOMBINING_HIGH_TONEuLOW_TONEuMID_TONEuLOW-MID_TONEuHIGH-LOW_TONEkFULL_STOP=16B0
  0aPAHAWH_HMONG_VOWEL_KEEBwVuIBvVuAUBwVuUBvVuEBvVuAIBwVuOOBwVuAWBwVuUABwVuOBvVuIABwVuABvVuWBvVuAA
  BwVnCONSONANT_VAUxNTSAUxLAUxHAUxNLAUxRAUxNKAUxQHAUxYAUxHLAUxMAUxCHAUxNCHAUxHNAUxPLHAUxNTHAUyAUxA
  UxXAUxCAUnMARK_CIM_TUBwSOwKESxHAVwSUAMwHOMwTAUMnSIGN_VOS_THOMxSHAB_CEEBsCIM_CHEEMsVOS_THIABwFEEM
  sXYEEM_NTXIVyRHOyTOVyFAIBsVOS_SEEVsMEEJ_SUABsVOS_NRUAsIB_YAMsXAUSsCIM_TSOV_ROG=16B50nDIGIT_ZEROt
  ONEtTWOuHREEtFOURuIVEtSIXuEVENtEIGHTtNINE=16B5BnNUMBER_TENSuHUNDREDSuTEN_THOUSANDSuMILLIONSuHUND
  RED_MILLIONSuTEN_BILLIONSvRILLIONS=16B63nSIGN_VOS_LUBsXYOOsHLIsTHIRD-STAGE_HLIsZWJ_THAJsHNUBsNQI
  GsXIABsNTUJsAVsTXHEEJ_CEEVsMEEJ_TSEEBsTAUsLOSsMUSsCIM_HAIS_LUS_NTOG_NTOGwCUAM_TSHOOJwTXWV!_CHWVw
  PUB_DAWBwNRES_TOS=16B7DnCLAN_SIGN_TSHEEJxYEEGxLISyAUJxXYOOJxKOOxHAWJxMUASxTHOJySABxPHABxKHABxHAM
  xVAJxFAJxYAJxTSWBxKWMxVWJ=16E40aMEDEFAIDRIN_(:M$S$V$W$ATIU$Z$KP$P$T$G$F$I$K$A$J$E$B$C$U$YU$L$Q$H
  P$NY$X$D$OE$N$R$O$AI$Ym):MzSzVzWzATIUzZzKPzPzTzGzFzIzKzAzJzEzBzCzUzYUzLzQzHPzNYzXzDzOEzNzRzOzAIz
  YmDIGIT_ZEROsONEsTWOtHREEsFOURtIVEsSIXtEVENsEIGHTsNINEmNUMBER_TENtELEVENtTWELVEuHIRTEENtFOURTEEN
  uIFTEENtSIXTEENuEVENTEENtEIGHTEENtNINETEENmDIGIT_ONE_ALTERNATE]sTWO_ALTERNATE]tHREE_ALTERNATE]mC
  OMMAmFULL_STOPmSYMBOL_AIVAmEXCLAMATION_OH=16F00bIAO:PAmBAmYI_PAmPLAmMAnHAmARCHAIC_MAmFAmVAnFAmTA
  mDAmYI_TTAqAmTTAmDDAmNAnHAmYI_NNAmARCHAIC_NAmNNAoHAmLAnYAnHAoYAmTLHAmDLHAmTLHYAmDLHYAmKAmGAmYI_K
  AmQAnGAmNGAoHAmARCHAIC_NGAmHAmXAmGHAoHAmTSSAmDZZAmNYAoHAmTSHAmDZHAmYI_TSHApDZHAmREFORMED_TSHAmSH
  AnSAmZHAnSHAmTSAmDZAmYI_TSAmSAmZAnSAnZAoSAmARCHAIC_ZZAmZZYAoSYAmWAmAHmHHAmBRImSYImDZYImTEnSEmRTE
  =16F4FfSIGN_CONSONANT_MODIFIER_BARfLETTER_NASALIZATIONfSIGN_ASPIRATIONkREFORMED_VOICINGtASPIRATI
  ONfVOWEL_SIGN_ArArHHrNsGqOrOqWOrqErNsGqOEYqIrAsNtGrOrErIrUrNGqUrAsNtGrUrEIrNGqYrIqAEsEqERRqROUND
  ED_ERRqERqROUNDED_ERqAIqEIqAUqOUqNrGqUOGqYUIqOGrERqVWqIGqEAqIONGqUI=16F8FfTONE_RIGHTkTOP_RIGHTkA
  BOVEkBELOWfLETTER_TONE-2r3r4r5r6r7r8mREFORMED_TONE-1!2!4!5!6!8=16FE0aTANGUT_ITERATION_MARKaNUSHU
  _ITERATION_MARKaOLD_CHINESE_HOOK_MARKmITERATION_MARKaKHITAN_)_SCRIPT_FILLER=16FF0aVIETNAMESE_ALT
  ERNATE_READING_MARK_CA;NHAY=18800aTANGUT_COMPONENT-001t2t3t4t5t6t7t8t9s10t1t2t3t4t5t6t7t8t9s20t1
  t2t3t4t5t6t7t8t9s30t1t2t3t4t5t6t7t8t9s40t1t2t3t4t5t6t7t8t9s50t1t2t3t4t5t6t7t8t9s60t1t2t3t4t5t6t7
  t8t9s70t1t2t3t4t5t6t7t8t9s80t1t2t3t4t5t6t7t8t9s90t1t2t3t4t5t6t7t8t9r100t1t2t3t4t5t6t7t8t9s10t1t2
  t3t4t5t6t7t8t9s20t1t2t3t4t5t6t7t8t9s30t1t2t3t4t5t6t7t8t9s40t1t2t3t4t5t6t7t8t9s50t1t2t3t4t5t6t7t8
  t9s60t1t2t3t4t5t6t7t8t9s70t1t2t3t4t5t6t7t8t9s80t1t2t3t4t5t6t7t8t9s90t1t2t3t4t5t6t7t8t9r200t1t2t3
  t4t5t6t7t8t9s10t1t2t3t4t5t6t7t8t9s20t1t2t3t4t5t6t7t8t9s30t1t2t3t4t5t6t7t8t9s40t1t2t3t4t5t6t7t8t9
  s50t1t2t3t4t5t6t7t8t9s60t1t2t3t4t5t6t7t8t9s70t1t2t3t4t5t6t7t8t9s80t1t2t3t4t5t6t7t8t9s90t1t2t3t4t
  5t6t7t8t9r300t1t2t3t4t5t6t7t8t9s10t1t2t3t4t5t6t7t8t9s20t1t2t3t4t5t6t7t8t9s30t1t2t3t4t5t6t7t8t9s4
  0t1t2t3t4t5t6t7t8t9s50t1t2t3t4t5t6t7t8t9s60t1t2t3t4t5t6t7t8t9s70t1t2t3t4t5t6t7t8t9s80t1t2t3t4t5t
  6t7t8t9s90t1t2t3t4t5t6t7t8t9r400t1t2t3t4t5t6t7t8t9s10t1t2t3t4t5t6t7t8t9s20t1t2t3t4t5t6t7t8t9s30t
  1t2t3t4t5t6t7t8t9s40t1t2t3t4t5t6t7t8t9s50t1t2t3t4t5t6t7t8t9s60t1t2t3t4t5t6t7t8t9s70t1t2t3t4t5t6t
  7t8t9s80t1t2t3t4t5t6t7t8t9s90t1t2t3t4t5t6t7t8t9r500t1t2t3t4t5t6t7t8t9s10t1t2t3t4t5t6t7t8t9s20t1t
  2t3t4t5t6t7t8t9s30t1t2t3t4t5t6t7t8t9s40t1t2t3t4t5t6t7t8t9s50t1t2t3t4t5t6t7t8t9s60t1t2t3t4t5t6t7t
  8t9s70t1t2t3t4t5t6t7t8t9s80t1t2t3t4t5t6t7t8t9s90t1t2t3t4t5t6t7t8t9r600t1t2t3t4t5t6t7t8t9s10t1t2t
  3t4t5t6t7t8t9s20t1t2t3t4t5t6t7t8t9s30t1t2t3t4t5t6t7t8t9s40t1t2t3t4t5t6t7t8t9s50t1t2t3t4t5t6t7t8t
  9s60t1t2t3t4t5t6t7t8t9s70t1t2t3t4t5t6t7t8t9s80t1t2t3t4t5t6t7t8t9s90t1t2t3t4t5t6t7t8t9r700t1t2t3t
  4t5t6t7t8t9s10t1t2t3t4t5t6t7t8t9s20t1t2t3t4t5t6t7t8t9s30t1t2t3t4t5t6t7t8t9s40t1t2t3t4t5t6t7t8t9s
  50t1t2t3t4t5t6t7t8t9s60t1t2t3t4t5t6t7t8=1AFF0aKATAKANA:MINNAN_TONE-2%3%4%5=1AFF5%7%8xNASALIZED_T
  ONE-1^2^3^4^5=1AFFD^7^8=1B000qARCHAIC_EaHIRAGANA:ARCHAIC_YEbENTAIGANA:A-1u2u3uWOsI-1u2u3u4sU-1u2
  u3u4u5sE-2u3u4u5u6sO-1u2u3sKA-1v2v3v4v5v6v7v8v9v10w1vKEtI-1v2v3v4v5v6v7v8tU-1v2v3v4v5v6v7tE-1v2v
  3v4v5v6tO-1v2v3vKIsSA-1v2v3v4v5v6v7v8tI-1v2v3v4v5v6tU-1v2v3v4v5v6v7v8tE-1v2v3v4v5tO-1v2v3v4v5v6v
  7sTA-1v2v3v4tI-1v2v3v4v5v6v7tU-1v2v3v4vTOtE-1v2v3v4v5v6v7v8v9tO-1v2v3v4v5v6vRAsNA-1v2v3v4v5v6v7v
  8v9tI-1v2v3v4v5v6v7vTEtU-1v2v3tE-1v2v3v4v5v6vKOtO-1v2v3v4v5sHA-1v2v3v4v5v6v7v8v9v10w1tI-1v2v3v4v
  5v6v7tU-1v2v3tE-1v2v3v4v5v6v7tO-1v2v3v4v5v6v7v8sMA-1v2v3v4v5v6v7tI-1v2v3v4v5v6v7tU-1v2v3v4tE-1v2
  vMAtO-1v2v3v4v5v6sYA-1v2v3v4v5vYOtU-1v2v3v4tO-1v2v3v4v5v6sRA-1v2v3v4tI-1v2v3v4v5v6v7tU-1v2v3v4v5
  v6tE-1v2v3v4tO-1v2v3v4v5v6sWA-1v2v3v4v5tI-1v2v3v4v5tE-1v2v3v4tO-1v2v3v4v5v6v7sN-MU-MO-1!2bIRAGAN
  A:ARCHAIC_WUaKATAKANA:ARCHAIC_YIzEyWU=1B150aHIRAGANA:)_WIxExO=1B164aKATAKANA:)_WIxExOwN=1BC00aDU
  PLOYAN:HqXqPqTqFqKqLqBqDqVqGqRqP_NqD_SqF_NqK_MqR_SqTHqSLOAN_DHqDHqKKqSLOAN_JqHLqLHqRHqMqNqJqSqM_
  NqN_MqJ_MqS_JqM@DOTqN@DOTqJ@DOT!S_INSIDE/ABOVEqS@DOT!_BELOWqM_SqN_SqJ_SqS_SqM_N_SqN_M_SqJ_M_SqS_
  J_SqJ_S@DOTsNt_SqS_Tt_RsPt_RqT_SsR_SqWrHr_RqS_NsMqK_R_SqG_R_SqS_Kt_RqAqSLOAN_OWqOArqAOUqIqEqIEqS
  HORT_IqUIqEEqSLOAN_EHqROMANIAN_IqSLOAN_EEqLONG_IqYEqUqEUqXWqU_NqLONG_UqROMANIAN_UqUHqSLOAN_UqOOH
  rWrUqWArOrIrEIrOWqNASAL_UwOwIwAqPERNIN_ANyMqSLOAN_ENwANwONqVOCALIC_M=1BC70jAFFIX_LEFT_HORIZONTAL
  _SECANTpMID_HORIZONTAL_SECANTpRIGHT_HORIZONTAL_SECANTpLOW_VERTICAL_SECANTpMID_VERTICAL_SECANTpHI
  GH_VERTICAL_SECANTpATTACHED_SECANTyLEFT-TO-RIGHT_SECANTyTANGENT!ILyE_HOOKyI_HOOKyTANGENT_HOOK=1B
  C80pHIGH_ACUTEuTIGHT_ACUTEuGRAVEuLONG_GRAVEuDOTuCIRCLEuLINEuWAVEuVERTICAL=1BC90pLOW_ACUTEtTIGHT_
  ACUTEtGRAVEtLONG_GRAVEtDOTtCIRCLEtLINEtWAVEtVERTICALtARROW=1BC9CjSIGN_O@CROSSjTHICK:SELECTORjDOU
  BLE_MARKjPUNCTUATION_CHINOOK_FULL_STOPaSHORTHAND]AT:OVERLAPrCONTINUING_OVERLAPrDOWN_STEPrUP_STEP
  =1CF00aZNAMENNY_COMBINING_MARK_GORAZDO_NIZKO_S_KRYZHEM_ON_LEFTyNIZKO_S_KRYZHEM_ON_LEFTyTSATA_ON_
  LEFTyGORAZDO_NIZKO_ON_LEFTyNIZKO_ON_LEFTySREDNE_ON_LEFTyMALO_POVYSHE_ON_LEFTyPOVYSHE_ON_LEFTyVYS
  OKO_ON_LEFTyMALO_POVYSHE_S_KHOKHLOM_ON_LEFTyPOVYSHE_S_KHOKHLOM_ON_LEFTyVYSOKO_S_KHOKHLOM_ON_LEFT
  yGORAZDO_NIZKO_S_KRYZHEM_ON_RIGHTyNIZKO_S_KRYZHEM_ON_RIGHTyTSATA_ON_RIGHTyGORAZDO_NIZKO_ON_RIGHT
  yNIZKO_ON_RIGHTySREDNE_ON_RIGHTyMALO_POVYSHE_ON_RIGHTyPOVYSHE_ON_RIGHTyVYSOKO_ON_RIGHTyMALO_POVY
  SHE_S_KHOKHLOM_ON_RIGHTyPOVYSHE_S_KHOKHLOM_ON_RIGHTyVYSOKO_S_KHOKHLOM_ON_RIGHTyTSATA_S_KRYZHEMyM
  ALO_POVYSHE_S_KRYZHEMySTRANNO_MALO_POVYSHEyPOVYSHE_S_KRYZHEM.TRANNOyVYSOKO_S_KRYZHEMyMALO_POVYSH
  E_STRANNOyGORAZDO_VYSOKOyZELOyONyRAVNOyTIKHAYAyBORZAYAyUDARKAyPODVERTKAyLOMKAyKUPNAYAzACHKAyZEVO
  KySKOBAyRAZSEKAyKRYZH_ON_LEFT=1CF30tTONAL_RANGE_MARK_MRACHNO>SVETLO>TRESVETLOtMARK_ZADERZHKAyDEM
  ESTVENNY_ZADERZHKAyOTSECHKAyPODCHASHIE;@VERTICAL_STROKEyCHASHKA+_POLNAYAyOBLACHKOySOROCHYA_NOZHK
  AyTOCHKAyDVOETOCHIEtATTACHING_VERTICAL_OMETtMARK_CURVED_OMETyKRYZHtLOWER_TONAL_RANGE_INDICATORjP
  RIZNAK_MODIFIER_LEVEL-2,3!DIRECTION_FLIP!KRYZH!ROG=1CF50jNEUME_KRYUKu_TIKHYpPARAKLITpDVA_V_CHELN
  UpKLYUCHpZANOZHEKpSTOPITSAx_S_OCHKOMpPEREVODKAy_NEPOSTOYANNAYApSTOPITSA@SOROCHYA_NOZHKApCHELYUST
  KApPALKApZAPYATAYApGOLUBCHIK_BORZYzTIKHYzMRACHNYzSVETLYzTRESVETLYpVRAKHIYA_PROSTAYAyMRACHNAYAySV
  ETLAYAyTRESVETLAYAyKLYUCHEVAYA_PROSTAYA>MRACHNAYA>SVETLAYA>TRESVETLAYApDOUBLE_ZAPYATAYApREVERSED
  _CHELYUSTKApDERBITSApKHAMILOpCHASHKApPODCHASHIEpSKAMEYTSA_MRACHNAYAzSVETLAYAzTRESVETLAYA!IKHAYAp
  DEMESTVENNY_KLYUCHpSKAMEYTSA_KLYUCHEVAYA_SVETLAYA,NEPOSTOYANNAYA,VAYA_TIKHAYAzDVOECHELNAYA_PROST
  AYA^SVETLAYA^NEPOSTOYANNAYA^KLYUCHEVAYAqLOZHITIEy_S_ZAPYATOYzZAKRYTOEzS_KRYZHEMpKRYZHpROGpFITApK
  OBYLApZMEYTSApSTATYAv_S_ZAPYATOYyKRYZHEMyZAPYATOY_I_KRYZHEMyKRYZHEM_I_ZAPYATOYwZAKRYTAYA+_S_ZAPY
  ATOYwS_ROGOMyDVUMYA_ZAPYATYMIyZAPYATOY_I_PODCHASHIEMpPOLKULIZMYpSTATYA_NEPOSTOYANNAYArRELA_PROST
  AYAwMRACHNOTIKHAYAwKRYZHEVAYAwPOLUPOVODNAYAyVODNAYAwNEPOSTOYANNAYAwKLYUCHEPOVODNAYA&NEPOSTOYANNA
  YAwTIKHAYA_PUTNAYAwDVOECHELNAYA+OKRYZHEVAYA,POVODNAYA+AYA_KLYUCHEVAYA+OPOVODNAYA_KLYUCHEVAYAwGRO
  MNAYA@SINGLE_ZAPYATAYA!OPOVODNAYA@SINGLE_ZAPYATAYA!NAYA!OPOVODNAYA>@DOUBLE_ZAPYATAYA$KRYZHEVAYA?
  _POVODNAYApMECHIKv_POVODNYwKLYUCHEVOY&POVODNY&NEPOSTOYANNYpSTRELA_TRYASOGLASNAYA%POVODNAYA%STREL
  NAYApOSOKAu_SVETLAYAvTRESVETLAYAvKRYUKOVAYA_SVETLAYAwLYUCHEVAYA_SVETLAYA.NEPOSTOYANNAYApSTRELA_K
  RYUKOVAYA,_POVODNAYA.GROMNAYA@SINGLE_ZAPYATAYA?OPOVODNAYA@SINGLE_ZAPYATAYA?NAYA?OPOVODNAYA~VODNA
  YA@DOUBLE_ZAPYATAYA^KRYZHEVAYA~YZHEVAYA_POVODNAYA.TRYASKApKUFISMApOBLAKOpDUDApNEMKApPAUK"

end BpfCompiler.Text.Name
