/-!
# Names of characters: scripts of the past
-/

namespace SourceConventions.Text.CharName

/-- Names of characters from U+10000 to U+1CFC3. -/
def historic : String :=
  "10000 aLINEAR_B_SYLLABLE_B008_A dB038_E dB028_I dB061_O dB010_U dB001_DA dB045_DE dB007_DI
    dB014_DO dB051_DU dB057_JA dB046_JE 1000D dB036_JO dB065_JU dB077_KA dB044_KE dB067_KI dB070_KO
    dB081_KU dB080_MA dB013_ME dB073_MI dB015_MO dB023_MU dB006_NA dB024_NE dB030_NI dB052_NO
    dB055_NU dB003_PA dB072_PE dB039_PI dB011_PO dB050_PU dB016_QA dB078_QE dB021_QI dB032_QO 10028
    dB060_RA dB027_RE dB053_RI dB002_RO dB026_RU dB031_SA dB009_SE dB041_SI dB012_SO dB058_SU
    dB059_TA dB004_TE dB037_TI dB005_TO dB069_TU dB054_WA dB075_WE dB040_WI dB042_WO 1003C dB017_ZA
    dB074_ZE 1003F dB020_ZO dB025_A2 dB043_A3 dB085_AU dB071_DWE dB090_DWO dB048_NWA dB029_PU2
    dB062_PTE dB076_RA2 dB033_RA3 dB068_RO2 dB066_TA2 dB087_TWE dB091_TWO 10050 cSYMBOL_B018 dB019
    dB022 dB034 dB047 dB049 dB056 dB063 dB064 dB079 dB082 dB083 dB086 dB089 10080 cIDEOGRAM_B100_MAN
    dB102_WOMAN dB104_DEER dB105_EQUID dB105F_MARE dB105M_STALLION dB106F_EWE dB106M_RAM
    dB107F_SHE-GOAT dB107M_HE-b dB108F_SOW dB108M_BOAR dB109F_COW dB109M_BULL dB120_WHEAT
    dB121_BARLEY dB122_OLIVE dB123_SPICE dB125_CYPERUS cMONOGRAM_B127_KAPO dB128_KANAKO
    cIDEOGRAM_B130_OIL dB131_WINE dB132 cMONOGRAM_B133_AREPA dB135_MERI cIDEOGRAM_B140_BRONZE
    dB141_GOLD dB142 dB145_WOOL dB146 dB150 dB151_HORN dB152 dB153 dB154 cMONOGRAM_B156_TURO2
    cIDEOGRAM_B157 dB158 dB159_CLOTH dB160 dB161 dB162_GARMENT dB163_ARMOUR dB164 dB165 dB166 dB167
    dB168 dB169 dB170 dB171 dB172 dB173_MONTH dB174 dB176_TREE dB177 dB178 dB179 dB180 dB181 dB182
    dB183 dB184 dB185 dB189 dB190 dB191_HELMET dB220_FOOTSTOOL dB225_BATHTUB dB230_SPEAR dB231_ARROW
    dB232 dB233_SWORD dB234 dB236 dB240_WHEELED_CHARIOT dB241_b dB242_CHARIOT_FRAME dB243_WHEEL
    dB245 dB246 cMONOGRAM_B247_DIPTE cIDEOGRAM_B248 dB249 dB251 dB252 dB253 dB254_DART dB255 dB256
    dB257 dB258 dB259 dVESSEL_B155 eB200 eB201 eB202 eB203 eB204 eB205 eB206 eB207 eB208 eB209 eB210
    eB211 eB212 eB213 eB214 eB215 eB216 eB217 eB218 eB219 eB221 eB222 eB226 eB227 eB228 eB229 eB250
    eB305 10100 aAEGEAN_WORD_SEPARATOR_LINE dDOT bCHECK_MARK 10107 bNUMBER_ONE cTWO cTHREE cFOUR
    cFIVE cSIX cSEVEN cEIGHT cNINE cTEN cTWENTY cTHIRTY cFORTY cFIFTY cSIXTY cSEVENTY cEIGHTY
    cNINETY cONE_HUNDRED cTWO_b cTHREE_b cFOUR_b cFIVE_b cSIX_b cSEVEN_b cEIGHT_b cNINE_b
    cONE_THOUSAND cTWO_b cTHREE_b cFOUR_b cFIVE_b cSIX_b cSEVEN_b cEIGHT_b cNINE_b cTEN_b cTWENTY_b
    cTHIRTY_b cFORTY_b cFIFTY_b cSIXTY_b cSEVENTY_b cEIGHTY_b cNINETY_b 10137 bWEIGHT_BASE_UNIT
    cFIRST_SUBUNIT cSECOND_b cTHIRD_b cFOURTH_b bDRY_MEASURE_FIRST_b bLIQUID_d bMEASURE_SECOND_b
    cTHIRD_b aGREEK_ACROPHONIC_ATTIC_ONE_QUARTER eHALF eDRACHMA dFIVE dFIFTY dFIVE_HUNDRED eTHOUSAND
    dFIFTY_b dFIVE_TALENTS dTEN_b dFIFTY_b dONE_HUNDRED_b dFIVE_c dONE_THOUSAND_b dFIVE_c eSTATERS
    dTEN_b dFIFTY_b dONE_HUNDRED_b dFIVE_c dONE_THOUSAND_b dTEN_c dFIFTY_c dTEN_MNAS
    cHERAEUM_ONE_PLETHRON cTHESPIAN_ONE cHERMIONIAN_b cEPIDAUREAN_TWO cTHESPIAN_b
    cCYRENAIC_TWO_DRACHMAS cEPIDAUREAN_c cTROEZENIAN_FIVE dTEN dTEN_ALTERNATE_FORM cHERMIONIAN_TEN
    cMESSENIAN_b cTHESPIAN_b dTHIRTY cTROEZENIAN_FIFTY dFIFTY_ALTERNATE_FORM cHERMIONIAN_FIFTY
    cTHESPIAN_b dONE_HUNDRED dTHREE_b cEPIDAUREAN_FIVE_b cTROEZENIAN_c cTHESPIAN_c cCARYSTIAN_c
    cNAXIAN_c cTHESPIAN_ONE_THOUSAND dFIVE_b cDELPHIC_FIVE_MNAS cSTRATIAN_FIFTY_b bONE_HALF_SIGN
    dSIGN_ALTERNATE_FORM bTWO_THIRDS_SIGN bTHREE_QUARTERS_b bYEAR_b bTALENT_b bDRACHMA_b bOBOL_b
    bTWO_OBOLS_b bTHREE_c bFOUR_c bFIVE_c bMETRETES_b bKYATHOS_BASE_b bLITRA_b bOUNKIA_b bXESTES_b
    bARTABE_b bAROURA_b bGRAMMA_b bTRYBLION_BASE_b bZERO_b bONE_QUARTER_b bSINUSOID_b bINDICTION_b
    aNOMISMA_b 10190 aROMAN_SEXTANS_b bUNCIA_b bSEMUNCIA_b bSEXTULA_b bDIMIDIA_c bSILIQUA_b
    bDENARIUS_b bQUINARIUS_b bSESTERTIUS_b bDUPONDIUS_b bAS_b bCENTURIAL_b aASCIA_SYMBOL 101A0
    aGREEK_SYMBOL_TAU_RHO 101D0 aPHAISTOS_DISC_SIGN_PEDESTRIAN dPLUMED_HEAD dTATTOOED_b dCAPTIVE
    dCHILD dWOMAN dHELMET dGAUNTLET dTIARA dARROW dBOW dSHIELD dCLUB dMANACLES dMATTOCK dSAW dLID
    dBOOMERANG dCARPENTRY_PLANE dDOLIUM dCOMB dSLING dCOLUMN dBEEHIVE dSHIP dHORN dHIDE dBULLS_LEG
    dCAT dRAM dEAGLE dDOVE dTUNNY dBEE dPLANE_TREE dVINE dPAPYRUS dROSETTE dLILY dOX_BACK dFLUTE
    dGRATER dSTRAINER dSMALL_AXE dWAVY_BAND dCOMBINING_OBLIQUE_STROKE 10280 aLYCIAN_LETTER_A cE cB
    cBH cG cD cI cW cZ cTH cJ cK cQ cL cM cN cMM cNN cU cP cKK cR cS cT cTT cAN cEN cH cX 102A0
    aCARIAN_LETTER_A cP2 cD cL cUUU cR cLD cA2 cQ cB cM cO cD2 cT cSH cSH2 cS cC-18 cU cNN cX cN
    cTT2 cP cSS cI cE cUUUU cK cK2 cND cUU cG cG2 cST cST2 cNG cII cC-39 cTT cUUU2 cRR cMB cMB2 cMB3
    cMB4 cLD2 cE2 cUUU3 102E0 aCOPTIC_EPACT_THOUSANDS_MARK cDIGIT_ONE dTWO dTHREE dFOUR dFIVE dSIX
    dSEVEN dEIGHT dNINE cNUMBER_TEN dTWENTY dTHIRTY dFORTY dFIFTY dSIXTY dSEVENTY dEIGHTY dNINETY
    dONE_HUNDRED dTWO_b dTHREE_b dFOUR_b dFIVE_b dSIX_b dSEVEN_b dEIGHT_b dNINE_b 10300
    aOLD_ITALIC_LETTER_A dBE dKE dDE dE dVE dZE dHE dTHE dI dKA dEL dEM dEN dESH dO dPE dSHE dKU dER
    dES dTE dU dEKS dPHE dKHE dEF dERS dCHE dII dUU dESS cNUMERAL_ONE dFIVE dTEN dFIFTY 1032D
    cLETTER_YE dNORTHERN_TSE dSOUTHERN_b aGOTHIC_LETTER_AHSA cBAIRKAN cGIBA cDAGS cAIHVUS cQAIRTHRA
    cIUJA cHAGL cTHIUTH cEIS cKUSMA cLAGUS cMANNA cNAUTHS cJER cURUS cPAIRTHRA cNINETY cRAIDA cSAUIL
    cTEIWS cWINJA cFAIHU cIGGWS cHWAIR cOTHAL cNINE_HUNDRED 10350 aOLD_PERMIC_LETTER_AN dBUR dGAI
    dDOI dE dZHOI dDZHOI dZATA dDZITA dI dKOKE dLEI dMENOE dNENOE dVOOI dPEEI dREI dSII dTAI dU
    dCHERY dSHOOI dSHCHOOI dYRY dYERU dO dOO dEF dHA dTSIU dVER dYER dYERI dYAT dIE dYU dYA dIA
    aCOMBINING_OLD_PERMIC_LETTER_AN eDOI eZATA eNENOE eSII 10380 aUGARITIC_LETTER_ALPA cBETA cGAMLA
    cKHA cDELTA cHO cWO cZETA cHOTA cTET cYOD cKAF cSHIN cLAMDA cMEM cDHAL cNUN cZU cSAMKA cAIN cPU
    cSADE cQOPA cRASHA cTHANNA cGHAIN cTO cI cU cSSU 1039F bWORD_DIVIDER aOLD_PERSIAN_SIGN_A dI dU
    dKA dKU dGA dGU dXA dCA dJA dJI dTA dTU dDA dDI dDU dTHA dPA dBA dFA dNA dNU dMA dMI dMU dYA dVA
    dVI dRA dRU dLA dSA dZA dSHA dSSA dHA 103C8 dAURAMAZDAA dAURAMAZDAA-2 dAURAMAZDAAHA
    dXSHAAYATHIYA dDAHYAAUSH dDAHYAAUSH-2 dBAGA dBUUMISH cWORD_DIVIDER cNUMBER_ONE dTWO dTEN dTWENTY
    dHUNDRED 10400 aDESERET_CAPITAL_LETTER_LONG_I eE eA eAH eO eOO dSHORT_I eE eA eAH eO eOO dAY dOW
    dWU dYEE dH dPEE dBEE dTEE dDEE dCHEE dJEE dKAY dGAY dEF dVEE dETH dTHEE dES dZEE dESH dZHEE dER
    dEL dEM dEN dENG dOI dEW bSMALL_LETTER_LONG_I eE eA eAH eO eOO dSHORT_I eE eA eAH eO eOO dAY dOW
    dWU dYEE dH dPEE dBEE dTEE dDEE dCHEE dJEE dKAY dGAY dEF dVEE dETH dTHEE dES dZEE dESH dZHEE dER
    dEL dEM dEN dENG dOI dEW aSHAVIAN_LETTER_PEEP cTOT cKICK cFEE cTHIGH cSO cSURE cCHURCH cYEA
    cHUNG cBIB cDEAD cGAG cVOW cTHEY cZOO cMEASURE cJUDGE cWOE cHA-HA cLOLL cMIME cIF cEGG cASH cADO
    cON cWOOL cOUT cAH cROAR cNUN cEAT cAGE cICE cUP cOAK cOOZE cOIL cAWE cARE cOR cAIR cERR cARRAY
    cEAR cIAN cYEW aOSMANYA_LETTER_ALEF cBA cTA cJA cXA cKHA cDEEL cRA cSA cSHIIN cDHA cCAYN cGA cFA
    cQAAF cKAAF cLAAN cMIIN cNUUN cWAW cHA cYA cA cE cI cO cU cAA cEE cOO 104A0 bDIGIT_ZERO cONE
    cTWO cTHREE cFOUR cFIVE cSIX cSEVEN cEIGHT cNINE 104B0 aOSAGE_CAPITAL_LETTER_A dAI dAIN dAH dBRA
    dCHA dEHCHA dE dEIN dHA dHYA dI dKA dEHKA dKYA dLA dMA dNA dO dOIN dPA dEHPA dSA dSHA dTA dEHTA
    dTSA dEHTSA dTSHA dDHA dU dWA dKHA dGHA dZA dZHA 104D8 bSMALL_LETTER_A dAI dAIN dAH dBRA dCHA
    dEHCHA dE dEIN dHA dHYA dI dKA dEHKA dKYA dLA dMA dNA dO dOIN dPA dEHPA dSA dSHA dTA dEHTA dTSA
    dEHTSA dTSHA dDHA dU dWA dKHA dGHA dZA dZHA 10500 aELBASAN_LETTER_A cBE cCE cCHE cDE cNDE cDHE
    cEI cE cFE cGE cGJE cHE cI cJE cKE cLE cLLE cME cNE cNA cNJE cO cPE cQE cRE cRRE cSE cSHE cTE
    cTHE cU cVE cXE cY cZE cZHE cGHE cGHAMMA cKHE 10530 aCAUCASIAN_ALBANIAN_LETTER_ALT dBET dGIM
    dDAT dEB dZARL dEYN dZHIL dTAS dCHA dYOWD dZHA dIRB dSHA dLAN dINYA dXEYN dDYAN dCAR dJHOX dKAR
    dLYIT dHEYT dQAY dAOR dCHOY dCHI dCYAY dMAQ dQAR dNOWC dDZYAY dSHAK dJAYN dON dTYAY dFAM dDZAY
    dCHAT dPEN dGHEYS dRAT dSEYK dVEYZ dTIWR dSHOY dIWN dCYAW dCAYN dYAYD dPIWR dKIW 1056F
    cCITATION_MARK aVITHKUQI_CAPITAL_LETTER_A dBBE dBE dCE dCHE dDE dDHE dEI dE dFE dGA 1057C dHA
    dHHA dI dIJE dJE dKA dLA dLLA dME dNE dNJE dO dPE dQA dRE 1058C dSE dSHE dTE dTHE dU dVE dXE
    10594 dY dZE 10597 bSMALL_LETTER_A dBBE dBE dCE dCHE dDE dDHE dEI dE dFE dGA 105A3 dHA dHHA dI
    dIJE dJE dKA dLA dLLA dME dNE dNJE dO dPE dQA dRE 105B3 dSE dSHE dTE dTHE dU dVE dXE 105BB dY
    dZE 10600 aLINEAR_A_SIGN_AB001 dAB002 dAB003 dAB004 dAB005 dAB006 dAB007 dAB008 dAB009 dAB010
    dAB011 dAB013 dAB016 dAB017 dAB020 dAB021 dAB021F dAB021M dAB022 dAB022F dAB022M dAB023 dAB023M
    dAB024 dAB026 dAB027 dAB028 dA028B dAB029 dAB030 dAB031 dAB034 dAB037 dAB038 dAB039 dAB040
    dAB041 dAB044 dAB045 dAB046 dAB047 dAB048 dAB049 dAB050 dAB051 dAB053 dAB054 dAB055 dAB056
    dAB057 dAB058 dAB059 dAB060 dAB061 dAB065 dAB066 dAB067 dAB069 dAB070 dAB073 dAB074 dAB076
    dAB077 dAB078 dAB079 dAB080 dAB081 dAB082 dAB085 dAB086 dAB087 dA100-102 dAB118 dAB120 dA120B
    dAB122 dAB123 dAB131A dAB131B dA131C dAB164 dAB171 dAB180 dAB188 dAB191 dA301 dA302 dA303 dA304
    dA305 dA306 dA307 dA308 dA309A dA309B dA309C dA310 dA311 dA312 dA313A dA313B dA313C dA314 dA315
    dA316 dA317 dA318 dA319 dA320 dA321 dA322 dA323 dA324 dA325 dA326 dA327 dA328 dA329 dA330 dA331
    dA332 dA333 dA334 dA335 dA336 dA337 dA338 dA339 dA340 dA341 dA342 dA343 dA344 dA345 dA346 dA347
    dA348 dA349 dA350 dA351 dA352 dA353 dA354 dA355 dA356 dA357 dA358 dA359 dA360 dA361 dA362 dA363
    dA364 dA365 dA366 dA367 dA368 dA369 dA370 dA371 dA400-VAS dA401-b dA402-b dA403-b dA404-b
    dA405-b dA406-b dA407-b dA408-b dA409-b dA410-b dA411-b dA412-b dA413-b dA414-b dA415-b dA416-b
    dA417-b dA418-b dA501 dA502 dA503 dA504 dA505 dA506 dA508 dA509 dA510 dA511 dA512 dA513 dA515
    dA516 dA520 dA521 dA523 dA524 dA525 dA526 dA527 dA528 dA529 dA530 dA531 dA532 dA534 dA535 dA536
    dA537 dA538 dA539 dA540 dA541 dA542 dA545 dA547 dA548 dA549 dA550 dA551 dA552 dA553 dA554 dA555
    dA556 dA557 dA559 dA563 dA564 dA565 dA566 dA568 dA569 dA570 dA571 dA572 dA573 dA574 dA575 dA576
    dA577 dA578 dA579 dA580 dA581 dA582 dA583 dA584 dA585 dA586 dA587 dA588 dA589 dA591 dA592 dA594
    dA595 dA596 dA598 dA600 dA601 dA602 dA603 dA604 dA606 dA608 dA609 dA610 dA611 dA612 dA613 dA614
    dA615 dA616 dA617 dA618 dA619 dA620 dA621 dA622 dA623 dA624 dA626 dA627 dA628 dA629 dA634 dA637
    dA638 dA640 dA642 dA643 dA644 dA645 dA646 dA648 dA649 dA651 dA652 dA653 dA654 dA655 dA656 dA657
    dA658 dA659 dA660 dA661 dA662 dA663 dA664 10740 dA701_A dA702_B dA703_D dA704_E dA705_F dA706_H
    dA707_J dA708_K dA709_L dA709-2_L2 e3_L3 e4_L4 e6_L6 dA710_W dA711_X dA712_Y dA713_OMEGA
    dA714_ABB dA715_BB dA717_DD dA726_EYYY dA732_JE 10760 dA800 dA801 dA802 dA803 dA804 dA805 dA806
    dA807 10780 aMODIFIER_LETTER_SMALL_CAPITAL_AA cSUPERSCRIPT_TRIANGULAR_COLON dHALF_c cSMALL_AE
    dCAPITAL_B dB_WITH_HOOK 10787 dDZ_DIGRAPH eDIGRAPH_WITH_RETROFLEX_HOOK gCURL dDEZH_DIGRAPH
    dD_WITH_TAIL fHOOK fHOOK_AND_TAIL dREVERSED_E dCLOSED_REVERSED_OPEN_b dFENG_DIGRAPH dRAMS_HORN
    dCAPITAL_G dG_WITH_HOOK dCAPITAL_d dH_WITH_STROKE dCAPITAL_H dHENG_WITH_HOOK
    dDOTLESS_J_WITH_STROKE_AND_b dLS_DIGRAPH dLZ_b dL_WITH_BELT dCAPITAL_d
    dL_WITH_RETROFLEX_HOOK_AND_b dLEZH dLEZH_WITH_RETROFLEX_HOOK dTURNED_Y eY_WITH_BELT
    dO_WITH_STROKE dCAPITAL_OE dCLOSED_OMEGA dQ dTURNED_R_WITH_LONG_LEG hLEG_AND_RETROFLEX_HOOK
    dR_WITH_TAIL fFISHHOOK dCAPITAL_R dTC_DIGRAPH_WITH_CURL dTS_DIGRAPH eDIGRAPH_WITH_RETROFLEX_HOOK
    dTESH_DIGRAPH dT_WITH_RETROFLEX_HOOK dV_WITH_RIGHT_b 107B2 dCAPITAL_Y cGLOTTAL_STOP_WITH_STROKE
    cREVERSED_e cBILABIAL_CLICK cDENTAL_b cLATERAL_b cALVEOLAR_b
    cRETROFLEX_CLICK_WITH_RETROFLEX_HOOK cSMALL_S_WITH_CURL 10800 aCYPRIOT_SYLLABLE_A cE cI cO cU
    cJA 10808 cJO 1080A cKA cKE cKI cKO cKU cLA cLE cLI cLO cLU cMA cME cMI cMO cMU cNA cNE cNI cNO
    cNU cPA cPE cPI cPO cPU cRA cRE cRI cRO cRU cSA cSE cSI cSO cSU cTA cTE cTI cTO cTU cWA cWE cWI
    cWO 10837 cXA cXE 1083C cZA 1083F cZO aIMPERIAL_ARAMAIC_LETTER_ALEPH dBETH dGIMEL dDALETH dHE
    dWAW dZAYIN dHETH dTETH dYODH dKAPH dLAMEDH dMEM dNUN dSAMEKH dAYIN dPE dSADHE dQOPH dRESH dSHIN
    dTAW 10857 cSECTION_SIGN cNUMBER_ONE dTWO dTHREE dTEN dTWENTY dONE_HUNDRED eTHOUSAND dTEN_b
    aPALMYRENE_LETTER_ALEPH cBETH cGIMEL cDALETH cHE cWAW cZAYIN cHETH cTETH cYODH cKAPH cLAMEDH
    cMEM cFINAL_NUN cb cSAMEKH cAYIN cPE cSADHE cQOPH cRESH cSHIN cTAW bLEFT-POINTING_FLEURON
    bRIGHT-c bNUMBER_ONE cTWO cTHREE cFOUR cFIVE cTEN cTWENTY aNABATAEAN_LETTER_FINAL_ALEPH cb
    cFINAL_BETH cb cGIMEL cDALETH cFINAL_HE cb cWAW cZAYIN cHETH cTETH cFINAL_YODH cb cFINAL_KAPH cb
    cFINAL_LAMEDH cb cFINAL_MEM cb cFINAL_NUN cb cSAMEKH cAYIN cPE cSADHE cQOPH cRESH cFINAL_SHIN cb
    cTAW 108A7 bNUMBER_ONE cTWO cTHREE cFOUR bCRUCIFORM_c bNUMBER_FIVE cTEN cTWENTY cONE_HUNDRED
    108E0 aHATRAN_LETTER_ALEPH cBETH cGIMEL cDALETH-RESH cHE cWAW cZAYN cHETH cTETH cYODH cKAPH
    cLAMEDH cMEM cNUN cSAMEKH cAYN cPE cSADHE cQOPH 108F4 cSHIN cTAW 108FB bNUMBER_ONE cFIVE cTEN
    cTWENTY cONE_HUNDRED aPHOENICIAN_LETTER_ALF cBET cGAML cDELT cHE cWAU cZAI cHET cTET cYOD cKAF
    cLAMD cMEM cNUN cSEMK cAIN cPE cSADE cQOF cROSH cSHIN cTAU bNUMBER_ONE cTEN cTWENTY cONE_HUNDRED
    cTWO cTHREE 1091F bWORD_SEPARATOR aLYDIAN_LETTER_A cB cG cD cE cV cI cY cK cL cM cN cO cR cSS cT
    cU cF cQ cS cTT cAN cEN cLY cNN cC 1093F bTRIANGULAR_MARK 10980 aMEROITIC_HIEROGLYPHIC_LETTER_A
    dE dI dO dYA dWA dBA dBA-2 dPA dMA dNA dNA-2 dNE dNE-2 dRA dRA-2 dLA dKHA dHHA dSA dSA-2 dSE dKA
    dQA dTA dTA-2 dTE dTE-2 dTO dDA cSYMBOL_VIDJ dVIDJ-2 bCURSIVE_LETTER_A dE dI dO dYA dWA dBA dPA
    dMA dNA dNE dRA dLA dKHA dHHA dSA dARCHAIC_b dSE dKA dQA dTA dTE dTO dDA 109BC
    cFRACTION_ELEVEN_TWELFTHS dONE_HALF cLOGOGRAM_RMT dIMN cNUMBER_ONE dTWO dTHREE dFOUR dFIVE dSIX
    dSEVEN dEIGHT dNINE dTEN dTWENTY dTHIRTY dFORTY dFIFTY dSIXTY dSEVENTY 109D2 dONE_HUNDRED dTWO_b
    dTHREE_b dFOUR_b dFIVE_b dSIX_b dSEVEN_b dEIGHT_b dNINE_b dONE_THOUSAND dTWO_b dTHREE_b dFOUR_b
    dFIVE_b dSIX_b dSEVEN_b dEIGHT_b dNINE_b dTEN_b dTWENTY_b dTHIRTY_b dFORTY_b dFIFTY_b dSIXTY_b
    dSEVENTY_b dEIGHTY_b dNINETY_b dONE_HUNDRED_b dTWO_c dTHREE_c dFOUR_c dFIVE_c dSIX_c dSEVEN_c
    dEIGHT_c dNINE_c cFRACTION_ONE_TWELFTH dTWO_TWELFTHS dTHREE_b dFOUR_b dFIVE_b dSIX_b dSEVEN_b
    dEIGHT_b dNINE_b dTEN_b aKHAROSHTHI_LETTER_A bVOWEL_SIGN_I dU dVOCALIC_R 10A05 dE dO 10A0C
    cLENGTH_MARK bSIGN_DOUBLE_RING_BELOW cANUSVARA cVISARGA bLETTER_KA cKHA cGA cGHA 10A15 cCA cCHA
    cJA 10A19 cNYA cTTA cTTHA cDDA cDDHA cNNA cTA cTHA cDA cDHA cNA cPA cPHA cBA cBHA cMA cYA cRA
    cLA cVA cSHA cSSA cSA cZA cHA cKKA cTTTHA cTTTA cVHA 10A38 bSIGN_BAR_ABOVE cCAUDA cDOT_BELOW
    10A3F bVIRAMA bDIGIT_ONE cTWO cTHREE cFOUR bNUMBER_TEN cTWENTY cONE_HUNDRED dTHOUSAND
    bFRACTION_ONE_HALF 10A50 bPUNCTUATION_DOT cSMALL_CIRCLE cb cCRESCENT_BAR cMANGALAM cLOTUS cDANDA
    cDOUBLE_b cLINES 10A60 aOLD_SOUTH_ARABIAN_LETTER_HE eLAMEDH eHETH eMEM eQOPH eWAW eSHIN eRESH
    eBETH eTAW eSAT eKAPH eNUN eKHETH eSADHE eSAMEKH eFE eALEF eAYN eDHADHE eGIMEL eDALETH eGHAYN
    eTETH eZAYN eDHALETH eYODH eTHAW eTHETH dNUMBER_ONE eFIFTY dNUMERIC_INDICATOR
    bNORTH_ARABIAN_LETTER_HEH eLAM eHAH eMEEM eQAF eWAW eES-2 eREH eBEH eTEH eES-1 eKAF eNOON eKHAH
    eSAD eES-3 eFEH eALEF eAIN eDAD eGEEM eDAL eGHAIN eTAH eZAIN eTHAL eYEH eTHEH eZAH dNUMBER_ONE
    eTEN eTWENTY 10AC0 aMANICHAEAN_LETTER_ALEPH cBETH cBHETH cGIMEL cGHIMEL cDALETH cHE cWAW
    bSIGN_UD bLETTER_ZAYIN cZHAYIN cJAYIN cJHAYIN cHETH cTETH cYODH cKAPH cXAPH cKHAPH cLAMEDH
    cDHAMEDH cTHAMEDH cMEM cNUN cSAMEKH cAYIN cAAYIN cPE cFE cSADHE cQOPH cXOPH cQHOPH cRESH cSHIN
    cSSHIN cTAW bABBREVIATION_MARK_ABOVE dBELOW 10AEB bNUMBER_ONE cFIVE cTEN cTWENTY cONE_HUNDRED
    bPUNCTUATION_STAR cFLEURON cDOUBLE_DOT_WITHIN_DOT cd cb cTWO_DOTS cLINE_FILLER 10B00
    aAVESTAN_LETTER_A cAA cAO cAAO cAN cAAN cAE cAEE cE cEE cO cOO cI cII cU cUU cKE cXE cXYE cXVE
    cGE cGGE cGHE cCE cJE cTE cTHE cDE cDHE cTTE cPE cFE cBE cBHE cNGE cNGYE cNGVE cNE cNYE cNNE cME
    cHME cYYE cYE cVE cRE cLE cSE cZE cSHE cZHE cSHYE cSSHE cHE 10B39 bABBREVIATION_MARK
    aTINY_TWO_DOTS_OVER_ONE_DOT_PUNCTUATION aSMALL_g aLARGE_g bONE_DOT_OVER_TWO_DOTS_b
    bTWO_RINGS_OVER_ONE_RING_b bONE_RING_OVER_TWO_RINGS_b aINSCRIPTIONAL_PARTHIAN_LETTER_ALEPH dBETH
    dGIMEL dDALETH dHE dWAW dZAYIN dHETH dTETH dYODH dKAPH dLAMEDH dMEM dNUN dSAMEKH dAYIN dPE
    dSADHE dQOPH dRESH dSHIN dTAW 10B58 cNUMBER_ONE dTWO dTHREE dFOUR dTEN dTWENTY dONE_HUNDRED
    eTHOUSAND bPAHLAVI_LETTER_ALEPH dBETH dGIMEL dDALETH dHE dWAW-AYIN-RESH dZAYIN dHETH dTETH dYODH
    dKAPH dLAMEDH dMEM-QOPH dNUN dSAMEKH dPE dSADHE dSHIN dTAW 10B78 cNUMBER_ONE dTWO dTHREE dFOUR
    dTEN dTWENTY dONE_HUNDRED eTHOUSAND aPSALTER_PAHLAVI_LETTER_ALEPH dBETH dGIMEL dDALETH dHE
    dWAW-AYIN-RESH dZAYIN dHETH dYODH dKAPH dLAMEDH dMEM-QOPH dNUN dSAMEKH dPE dSADHE dSHIN dTAW
    10B99 cSECTION_MARK cTURNED_c cFOUR_DOTS_WITH_CROSS fDOT 10BA9 cNUMBER_ONE dTWO dTHREE dFOUR
    dTEN dTWENTY dONE_HUNDRED 10C00 aOLD_TURKIC_LETTER_ORKHON_A dYENISEI_b eAE dORKHON_I dYENISEI_b
    eE dORKHON_O eOE dYENISEI_b dORKHON_AB dYENISEI_b dORKHON_AEB dYENISEI_b dORKHON_AG dYENISEI_b
    dORKHON_AEG dYENISEI_b dORKHON_AD dYENISEI_b dORKHON_AED eEZ dYENISEI_b dORKHON_AY dYENISEI_b
    dORKHON_AEY dYENISEI_b dORKHON_AEK dYENISEI_b dORKHON_OEK dYENISEI_b dORKHON_AL dYENISEI_b
    dORKHON_AEL eELT eEM eAN eAEN dYENISEI_b dORKHON_ENT dYENISEI_b dORKHON_ENC dYENISEI_b
    dORKHON_ENY dYENISEI_b eANG dORKHON_ENG dYENISEI_AENG dORKHON_EP eOP eIC eEC dYENISEI_b
    dORKHON_AQ dYENISEI_b dORKHON_IQ dYENISEI_b dORKHON_OQ dYENISEI_b dORKHON_AR dYENISEI_b
    dORKHON_AER eAS eAES eASH dYENISEI_b dORKHON_ESH dYENISEI_b dORKHON_AT dYENISEI_b dORKHON_AET
    dYENISEI_b dORKHON_OT eBASH 10C80 bHUNGARIAN_CAPITAL_LETTER_A eAA eEB eAMB eEC eENC eECS eED
    eAND eE eCLOSE_b eEE eEF eEG eEGY eEH eI eII eEJ eEK eAK eUNK eEL eELY eEM eEN eENY eO eOO
    eNIKOLSBURG_OE eRUDIMENTA_b eOEE eEP eEMP eER eSHORT_b eES eESZ eET eENT eETY eECH eU eUU
    eNIKOLSBURG_UE eRUDIMENTA_b eEV eEZ eEZS eENT-SHAPED_SIGN eUS 10CC0 cSMALL_LETTER_A eAA eEB eAMB
    eEC eENC eECS eED eAND eE eCLOSE_b eEE eEF eEG eEGY eEH eI eII eEJ eEK eAK eUNK eEL eELY eEM eEN
    eENY eO eOO eNIKOLSBURG_OE eRUDIMENTA_b eOEE eEP eEMP eER eSHORT_b eES eESZ eET eENT eETY eECH
    eU eUU eNIKOLSBURG_UE eRUDIMENTA_b eEV eEZ eEZS eENT-SHAPED_SIGN eUS 10CFA cNUMBER_ONE dFIVE
    dTEN dFIFTY dONE_HUNDRED eTHOUSAND aHANIFI_ROHINGYA_LETTER_A dBA dPA dTA dTTA dJA dCA dHA dKHA
    dFA dDA dDDA dRA dRRA dZA dSA dSHA dKA dGA dLA dMA dNA dWA dKINNA_b dYA dKINNA_b dNGA dNYA dVA
    cVOWEL_A dI dU dE dO cMARK_SAKIN dNA_KHONNA cSIGN_HARBAHAY dTAHALA dTANA dTASSI 10D30
    cDIGIT_ZERO dONE dTWO dTHREE dFOUR dFIVE dSIX dSEVEN dEIGHT dNINE 10E60 aRUMI_DIGIT_ONE cTWO
    cTHREE cFOUR cFIVE cSIX cSEVEN cEIGHT cNINE bNUMBER_TEN cTWENTY cTHIRTY cFORTY cFIFTY cSIXTY
    cSEVENTY cEIGHTY cNINETY cONE_HUNDRED cTWO_b cTHREE_b cFOUR_b cFIVE_b cSIX_b cSEVEN_b cEIGHT_b
    cNINE_b bFRACTION_ONE_HALF dQUARTER dTHIRD cTWO_THIRDS 10E80 aYEZIDI_LETTER_ELIF cBE cPE cPHE
    cTHE cSE cCIM cCHIM cCHHIM cHHA cXA cDAL cZAL cRA cRHA cZA cJA cSIN cSHIN cSAD cDAD cTA cZE cEYN
    cXHEYN cFA cVA cVA_ALTERNATE_FORM cQAF cKAF cKHAF cGAF cLAM cMIM cNUN cUM cWAW cOW cEW cHAY cYOT
    cET 10EAB bCOMBINING_HAMZA_MARK cMADDA_b bHYPHENATION_b 10EB0 bLETTER_LAM_WITH_DOT_ABOVE
    cYOT_WITH_CIRCUMFLEX_b 10F00 aOLD_SOGDIAN_LETTER_ALEPH dFINAL_b dBETH dFINAL_b dGIMEL dHE
    dFINAL_b dWAW dZAYIN dHETH dYODH dKAPH dLAMEDH dMEM dNUN dFINAL_b eNUN_WITH_VERTICAL_TAIL
    dSAMEKH dAYIN dALTERNATE_b dPE dSADHE dFINAL_b eSADHE_WITH_VERTICAL_TAIL dRESH-AYIN-DALETH dSHIN
    dTAW dFINAL_b eTAW_WITH_VERTICAL_TAIL cNUMBER_ONE dTWO dTHREE dFOUR dFIVE dTEN dTWENTY dTHIRTY
    dONE_HUNDRED cFRACTION_ONE_HALF cLIGATURE_AYIN-DALETH 10F30 aSOGDIAN_LETTER_ALEPH cBETH cGIMEL
    cHE cWAW cZAYIN cHETH cYODH cKAPH cLAMEDH cMEM cNUN cSAMEKH cAYIN cPE cSADHE cRESH-AYIN cSHIN
    cTAW cFETH cLESH bINDEPENDENT_SHIN bCOMBINING_DOT_BELOW cTWO_DOTS_b cDOT_ABOVE cTWO_DOTS_b
    cCURVE_b dBELOW cHOOK_ABOVE dBELOW cLONG_c cRESH_b cSTROKE_b bNUMBER_ONE cTEN cTWENTY
    cONE_HUNDRED bPUNCTUATION_TWO_VERTICAL_BARS eBARS_WITH_DOTS cCIRCLE_WITH_DOT
    cTWO_CIRCLES_WITH_DOTS cHALF_CIRCLE_WITH_DOT 10F70 aOLD_UYGHUR_LETTER_ALEPH dBETH dGIMEL-HETH
    dWAW dZAYIN dFINAL_HETH dYODH dKAPH dLAMEDH dMEM dNUN dSAMEKH dPE dSADHE dRESH dSHIN dTAW dLESH
    cCOMBINING_DOT_ABOVE eBELOW dTWO_DOTS_ABOVE fBELOW cPUNCTUATION_BAR dTWO_BARS eDOTS dFOUR_b
    10FB0 aCHORASMIAN_LETTER_ALEPH cSMALL_b cBETH cGIMEL cDALETH cHE cWAW cCURLED_b cZAYIN cHETH
    cYODH cKAPH cLAMEDH cMEM cNUN cSAMEKH cAYIN cPE cRESH cSHIN cTAW bNUMBER_ONE cTWO cTHREE cFOUR
    cTEN cTWENTY cONE_HUNDRED 10FE0 aELYMAIC_LETTER_ALEPH cBETH cGIMEL cDALETH cHE cWAW cZAYIN cHETH
    cTETH cYODH cKAPH cLAMEDH cMEM cNUN cSAMEKH cAYIN cPE cSADHE cQOPH cRESH cSHIN cTAW
    bLIGATURE_ZAYIN-YODH 11000 aBRAHMI_SIGN_CANDRABINDU cANUSVARA cVISARGA cJIHVAMULIYA cUPADHMANIYA
    bLETTER_A cAA cI cII cU cUU cVOCALIC_R dRR dL dLL cE cAI cO cAU cKA cKHA cGA cGHA cNGA cCA cCHA
    cJA cJHA cNYA cTTA cTTHA cDDA cDDHA cNNA cTA cTHA cDA cDHA cNA cPA cPHA cBA cBHA cMA cYA cRA cLA
    cVA cSHA cSSA cSA cHA cLLA cOLD_TAMIL_LLLA eRRA eNNNA bVOWEL_SIGN_AA dBHATTIPROLU_b dI dII dU
    dUU dVOCALIC_R eRR eL eLL dE dAI dO dAU bVIRAMA bDANDA bDOUBLE_b bPUNCTUATION_DOT cDOUBLE_b
    cLINE cCRESCENT_BAR cLOTUS 11052 bNUMBER_ONE cTWO cTHREE cFOUR cFIVE cSIX cSEVEN cEIGHT cNINE
    cTEN cTWENTY cTHIRTY cFORTY cFIFTY cSIXTY cSEVENTY cEIGHTY cNINETY cONE_HUNDRED dTHOUSAND
    bDIGIT_ZERO cONE cTWO cTHREE cFOUR cFIVE cSIX cSEVEN cEIGHT cNINE bSIGN_OLD_TAMIL_VIRAMA
    bLETTER_OLD_TAMIL_SHORT_E fO bVOWEL_SIGN_OLD_TAMIL_SHORT_E gO bLETTER_OLD_TAMIL_LLA 1107F
    bNUMBER_JOINER aKAITHI_SIGN_CANDRABINDU cANUSVARA cVISARGA bLETTER_A cAA cI cII cU cUU cE cAI cO
    cAU cKA cKHA cGA cGHA cNGA cCA cCHA cJA cJHA cNYA cTTA cTTHA cDDA cDDDHA cDDHA cRHA cNNA cTA
    cTHA cDA cDHA cNA cPA cPHA cBA cBHA cMA cYA cRA cLA cVA cSHA cSSA cSA cHA bVOWEL_SIGN_AA dI dII
    dU dUU dE dAI dO dAU bSIGN_VIRAMA cNUKTA bABBREVIATION_SIGN bENUMERATION_b bNUMBER_b
    bSECTION_MARK bDOUBLE_c bDANDA bDOUBLE_b bVOWEL_SIGN_VOCALIC_R 110CD bNUMBER_SIGN_ABOVE 110D0
    aSORA_SOMPENG_LETTER_SAH dTAH dBAH dCAH dDAH dGAH dMAH dNGAH dLAH dNAH dVAH dPAH dYAH dRAH dHAH
    dKAH dJAH dNYAH dAH dEEH dIH dUH dOH dEH dMAE 110F0 cDIGIT_ZERO dONE dTWO dTHREE dFOUR dFIVE
    dSIX dSEVEN dEIGHT dNINE 11100 aCHAKMA_SIGN_CANDRABINDU cANUSVARA cVISARGA bLETTER_AA cI cU cE
    cKAA cKHAA cGAA cGHAA cNGAA cCAA cCHAA cJAA cJHAA cNYAA cTTAA cTTHAA cDDAA cDDHAA cNNAA cTAA
    cTHAA cDAA cDHAA cNAA cPAA cPHAA cBAA cBHAA cMAA cYYAA cYAA cRAA cLAA cWAA cSAA cHAA
    bVOWEL_SIGN_A dI dII dU dUU dE dAI dO dAU dOI bO_MARK bAU_b bVIRAMA bMAAYYAA 11136 bDIGIT_ZERO
    cONE cTWO cTHREE cFOUR cFIVE cSIX cSEVEN cEIGHT cNINE bSECTION_MARK bDANDA bDOUBLE_b
    bQUESTION_MARK bLETTER_LHAA bVOWEL_SIGN_AA dEI bLETTER_VAA 11150 aMAHAJANI_LETTER_A cI cU cE cO
    cKA cKHA cGA cGHA cCA cCHA cJA cJHA cNYA cTTA cTTHA cDDA cDDHA cNNA cTA cTHA cDA cDHA cNA cPA
    cPHA cBA cBHA cMA cRA cLA cVA cSA cHA cRRA bSIGN_NUKTA bABBREVIATION_SIGN bSECTION_MARK
    bLIGATURE_SHRI 11180 aSHARADA_SIGN_CANDRABINDU cANUSVARA cVISARGA bLETTER_A cAA cI cII cU cUU
    cVOCALIC_R dRR dL dLL cE cAI cO cAU cKA cKHA cGA cGHA cNGA cCA cCHA cJA cJHA cNYA cTTA cTTHA
    cDDA cDDHA cNNA cTA cTHA cDA cDHA cNA cPA cPHA cBA cBHA cMA cYA cRA cLA cLLA cVA cSHA cSSA cSA
    cHA bVOWEL_SIGN_AA dI dII dU dUU dVOCALIC_R eRR eL eLL dE dAI dO dAU bSIGN_VIRAMA cAVAGRAHA
    cJIHVAMULIYA cUPADHMANIYA bOM bDANDA bDOUBLE_b bABBREVIATION_SIGN bSEPARATOR bSANDHI_MARK
    bSIGN_NUKTA bVOWEL_MODIFIER_MARK bEXTRA_SHORT_VOWEL_b bSUTRA_b bVOWEL_SIGN_PRISHTHAMATRA_E
    bSIGN_INVERTED_CANDRABINDU bDIGIT_ZERO cONE cTWO cTHREE cFOUR cFIVE cSIX cSEVEN cEIGHT cNINE
    bEKAM bSIGN_SIDDHAM bHEADSTROKE bCONTINUATION_SIGN bSECTION_MARK-1 d2 111E1
    aSINHALA_ARCHAIC_DIGIT_ONE dTWO dTHREE dFOUR dFIVE dSIX dSEVEN dEIGHT dNINE cNUMBER_TEN dTWENTY
    dTHIRTY dFORTY dFIFTY dSIXTY dSEVENTY dEIGHTY dNINETY dONE_HUNDRED eTHOUSAND 11200
    aKHOJKI_LETTER_A cAA cI cU cE cAI cO cAU cKA cKHA cGA cGGA cGHA cNGA cCA cCHA cJA cJJA 11213
    cNYA cTTA cTTHA cDDA cDDHA cNNA cTA cTHA cDA cDDDA cDHA cNA cPA cPHA cBA cBBA cBHA cMA cYA cRA
    cLA cVA cSA cHA cLLA bVOWEL_SIGN_AA dI dII dU dE dAI dO dAU bSIGN_ANUSVARA cVIRAMA cNUKTA
    cSHADDA bDANDA bDOUBLE_b bWORD_SEPARATOR bSECTION_MARK bDOUBLE_c bABBREVIATION_SIGN bSIGN_SUKUN
    11280 aMULTANI_LETTER_A cI cU cE cKA cKHA cGA 11288 cGHA 1128A cCA cCHA cJA cJJA 1128F cNYA cTTA
    cTTHA cDDA cDDDA cDDHA cNNA cTA cTHA cDA cDHA cNA cPA cPHA cBA 1129F cBHA cMA cYA cRA cLA cVA
    cSA cHA cRRA cRHA bSECTION_MARK 112B0 aKHUDAWADI_LETTER_A cAA cI cII cU cUU cE cAI cO cAU cKA
    cKHA cGA cGGA cGHA cNGA cCA cCHA cJA cJJA cJHA cNYA cTTA cTTHA cDDA cDDDA cRRA cDDHA cNNA cTA
    cTHA cDA cDHA cNA cPA cPHA cBA cBBA cBHA cMA cYA cRA cLA cVA cSHA cSA cHA bSIGN_ANUSVARA
    bVOWEL_SIGN_AA dI dII dU dUU dE dAI dO dAU bSIGN_NUKTA cVIRAMA 112F0 bDIGIT_ZERO cONE cTWO
    cTHREE cFOUR cFIVE cSIX cSEVEN cEIGHT cNINE 11300 aGRANTHA_SIGN_COMBINING_ANUSVARA_ABOVE
    cCANDRABINDU cANUSVARA cVISARGA 11305 bLETTER_A cAA cI cII cU cUU cVOCALIC_R dL 1130F cEE cAI
    11313 cOO cAU cKA cKHA cGA cGHA cNGA cCA cCHA cJA cJHA cNYA cTTA cTTHA cDDA cDDHA cNNA cTA cTHA
    cDA cDHA cNA 1132A cPA cPHA cBA cBHA cMA cYA cRA 11332 cLA cLLA 11335 cVA cSHA cSSA cSA cHA
    1133B aCOMBINING_BINDU_BELOW aGRANTHA_SIGN_NUKTA cAVAGRAHA bVOWEL_SIGN_AA dI dII dU dUU
    dVOCALIC_R eRR 11347 dEE dAI 1134B dOO dAU bSIGN_VIRAMA 11350 bOM 11357 bAU_LENGTH_MARK 1135D
    bSIGN_PLUTA bLETTER_VEDIC_ANUSVARA dDOUBLE_b cVOCALIC_RR dLL bVOWEL_SIGN_VOCALIC_L eLL 11366
    aCOMBINING_GRANTHA_DIGIT_ZERO dONE dTWO dTHREE dFOUR dFIVE dSIX 11370 cLETTER_A dKA dNA dVI dPA
    11400 aNEWA_LETTER_A cAA cI cII cU cUU cVOCALIC_R dRR dL dLL cE cAI cO cAU cKA cKHA cGA cGHA
    cNGA cNGHA cCA cCHA cJA cJHA cNYA cNYHA cTTA cTTHA cDDA cDDHA cNNA cTA cTHA cDA cDHA cNA cNHA
    cPA cPHA cBA cBHA cMA cMHA cYA cRA cRHA cLA cLHA cWA cSHA cSSA cSA cHA bVOWEL_SIGN_AA dI dII dU
    dUU dVOCALIC_R eRR eL eLL dE dAI dO dAU bSIGN_VIRAMA cCANDRABINDU cANUSVARA cVISARGA cNUKTA
    cAVAGRAHA cFINAL_ANUSVARA bOM bSIDDHI bDANDA bDOUBLE_b bCOMMA bGAP_FILLER bABBREVIATION_SIGN
    bDIGIT_ZERO cONE cTWO cTHREE cFOUR cFIVE cSIX cSEVEN cEIGHT cNINE bDOUBLE_COMMA
    bPLACEHOLDER_MARK 1145D bINSERTION_SIGN bSANDHI_MARK bLETTER_VEDIC_ANUSVARA bSIGN_JIHVAMULIYA
    cUPADHMANIYA 11480 aTIRHUTA_ANJI bLETTER_A cAA cI cII cU cUU cVOCALIC_R dRR dL dLL cE cAI cO cAU
    cKA cKHA cGA cGHA cNGA cCA cCHA cJA cJHA cNYA cTTA cTTHA cDDA cDDHA cNNA cTA cTHA cDA cDHA cNA
    cPA cPHA cBA cBHA cMA cYA cRA cLA cVA cSHA cSSA cSA cHA bVOWEL_SIGN_AA dI dII dU dUU dVOCALIC_R
    eRR eL eLL dE dSHORT_b dAI dO dSHORT_b dAU bSIGN_CANDRABINDU cANUSVARA cVISARGA cVIRAMA cNUKTA
    cAVAGRAHA bGVANG bABBREVIATION_SIGN bOM 114D0 bDIGIT_ZERO cONE cTWO cTHREE cFOUR cFIVE cSIX
    cSEVEN cEIGHT cNINE 11580 aSIDDHAM_LETTER_A cAA cI cII cU cUU cVOCALIC_R dRR dL dLL cE cAI cO
    cAU cKA cKHA cGA cGHA cNGA cCA cCHA cJA cJHA cNYA cTTA cTTHA cDDA cDDHA cNNA cTA cTHA cDA cDHA
    cNA cPA cPHA cBA cBHA cMA cYA cRA cLA cVA cSHA cSSA cSA cHA bVOWEL_SIGN_AA dI dII dU dUU
    dVOCALIC_R eRR 115B8 dE dAI dO dAU bSIGN_CANDRABINDU cANUSVARA cVISARGA cVIRAMA cNUKTA cSIDDHAM
    bDANDA bDOUBLE_b bSEPARATOR_DOT cBAR bREPETITION_MARK-1 d2 d3 bEND_OF_TEXT_MARK
    bSECTION_MARK_WITH_TRIDENT_AND_U-SHAPED_ORNAMENTS gDOTTED_CRESCENTS eRAYS_d hDOUBLE_b hTRIPLE_b
    dDOUBLE_RING eRING_WITH_RAYS dWITH_DOUBLE_CRESCENTS eTRIPLE_b eQUADRUPLE_b eSEPTUPLE_b
    eCIRCLES_AND_RAYS gTWO_ENCLOSURES gFOUR_b bLETTER_THREE-CIRCLE_ALTERNATE_I cTWO-d fII
    cALTERNATE_U bVOWEL_SIGN_c eUU 11600 aMODI_LETTER_A cAA cI cII cU cUU cVOCALIC_R dRR dL dLL cE
    cAI cO cAU cKA cKHA cGA cGHA cNGA cCA cCHA cJA cJHA cNYA cTTA cTTHA cDDA cDDHA cNNA cTA cTHA cDA
    cDHA cNA cPA cPHA cBA cBHA cMA cYA cRA cLA cVA cSHA cSSA cSA cHA cLLA bVOWEL_SIGN_AA dI dII dU
    dUU dVOCALIC_R eRR eL eLL dE dAI dO dAU bSIGN_ANUSVARA cVISARGA cVIRAMA cARDHACANDRA bDANDA
    bDOUBLE_b bABBREVIATION_SIGN bSIGN_HUVA 11650 bDIGIT_ZERO cONE cTWO cTHREE cFOUR cFIVE cSIX
    cSEVEN cEIGHT cNINE 11660 aMONGOLIAN_BIRGA_WITH_ORNAMENT bROTATED_BIRGA
    bDOUBLE_BIRGA_WITH_ORNAMENT bTRIPLE_d bBIRGA_WITH_DOUBLE_b bROTATED_BIRGA_WITH_b eDOUBLE_b
    bINVERTED_BIRGA cBIRGA_WITH_DOUBLE_ORNAMENT bSWIRL_BIRGA cBIRGA_WITH_ORNAMENT eDOUBLE_b
    bTURNED_f 11680 aTAKRI_LETTER_A cAA cI cII cU cUU cE cAI cO cAU cKA cKHA cGA cGHA cNGA cCA cCHA
    cJA cJHA cNYA cTTA cTTHA cDDA cDDHA cNNA cTA cTHA cDA cDHA cNA cPA cPHA cBA cBHA cMA cYA cRA cLA
    cVA cSHA cSA cHA cRRA bSIGN_ANUSVARA cVISARGA bVOWEL_SIGN_AA dI dII dU dUU dE dAI dO dAU
    bSIGN_VIRAMA cNUKTA bLETTER_ARCHAIC_KHA bABBREVIATION_SIGN 116C0 bDIGIT_ZERO cONE cTWO cTHREE
    cFOUR cFIVE cSIX cSEVEN cEIGHT cNINE 11700 aAHOM_LETTER_KA cKHA cNGA cNA cTA cALTERNATE_b cPA
    cPHA cBA cMA cJA cCHA cTHA cRA cLA cSA cNYA cHA cA cDA cDHA cGA cALTERNATE_b cGHA cBHA cJHA
    cALTERNATE_BA 1171D bCONSONANT_SIGN_MEDIAL_LA eRA eLIGATING_b bVOWEL_SIGN_A dAA dI dII dU dUU dE
    dAW dO dAI dAM bSIGN_KILLER 11730 bDIGIT_ZERO cONE cTWO cTHREE cFOUR cFIVE cSIX cSEVEN cEIGHT
    cNINE bNUMBER_TEN cTWENTY bSIGN_SMALL_SECTION cb cRULAI bSYMBOL_VI bLETTER_CA cTTA cTTHA cDDA
    cDDHA cNNA cLLA 11800 aDOGRA_LETTER_A cAA cI cII cU cUU cE cAI cO cAU cKA cKHA cGA cGHA cNGA cCA
    cCHA cJA cJHA cNYA cTTA cTTHA cDDA cDDHA cNNA cTA cTHA cDA cDHA cNA cPA cPHA cBA cBHA cMA cYA
    cRA cLA cVA cSHA cSSA cSA cHA cRRA bVOWEL_SIGN_AA dI dII dU dUU dVOCALIC_R eRR dE dAI dO dAU
    bSIGN_ANUSVARA cVISARGA cVIRAMA cNUKTA bABBREVIATION_SIGN 118A0 aWARANG_CITI_CAPITAL_LETTER_NGAA
    eA eWI eYU eYA eYO eII eUU eE eO eANG eGA eKO eENY eYUJ eUC eENN eODD eTTE eNUNG eDA eAT eAM eBU
    ePU eHIYO eHOLO eHORR eHAR eSSUU eSII eVIYO cSMALL_LETTER_NGAA eA eWI eYU eYA eYO eII eUU eE eO
    eANG eGA eKO eENY eYUJ eUC eENN eODD eTTE eNUNG eDA eAT eAM eBU ePU eHIYO eHOLO eHORR eHAR eSSUU
    eSII eVIYO cDIGIT_ZERO dONE dTWO dTHREE dFOUR dFIVE dSIX dSEVEN dEIGHT dNINE cNUMBER_TEN dTWENTY
    dTHIRTY dFORTY dFIFTY dSIXTY dSEVENTY dEIGHTY dNINETY 118FF cOM aDIVES_AKURU_LETTER_A dAA dI dII
    dU dUU dE 11909 dO 1190C dKA dKHA dGA dGHA dNGA dCA dCHA dJA 11915 dNYA dTTA 11918 dDDA dDDHA
    dNNA dTA dTHA dDA dDHA dNA dPA dPHA dBA dBHA dMA dYA dYYA dRA dLA dVA dSHA dSSA dSA dHA dLLA dZA
    cVOWEL_SIGN_AA eI eII eU eUU eE 11937 eAI eO 1193B cSIGN_ANUSVARA dCANDRABINDU dHALANTA cVIRAMA
    cPREFIXED_NASAL_SIGN cMEDIAL_YA cINITIAL_RA cMEDIAL_b cSIGN_NUKTA cDOUBLE_DANDA cGAP_FILLER
    cEND_OF_TEXT_MARK 11950 cDIGIT_ZERO dONE dTWO dTHREE dFOUR dFIVE dSIX dSEVEN dEIGHT dNINE 119A0
    aNANDINAGARI_LETTER_A cAA cI cII cU cUU cVOCALIC_R dRR 119AA cE cAI cO cAU cKA cKHA cGA cGHA
    cNGA cCA cCHA cJA cJHA cNYA cTTA cTTHA cDDA cDDHA cNNA cTA cTHA cDA cDHA cNA cPA cPHA cBA cBHA
    cMA cYA cRA cLA cVA cSHA cSSA cSA cHA cLLA cRRA bVOWEL_SIGN_AA dI dII dU dUU dVOCALIC_R eRR
    119DA dE dAI dO dAU bSIGN_ANUSVARA cVISARGA cVIRAMA cAVAGRAHA cSIDDHAM bHEADSTROKE
    bVOWEL_SIGN_PRISHTHAMATRA_E 11A00 aZANABAZAR_SQUARE_LETTER_A cVOWEL_SIGN_I eUE eU eE eOE eO eAI
    eAU eREVERSED_I dLENGTH_MARK cLETTER_KA dKHA dGA dGHA dNGA dCA dCHA dJA dNYA dTTA dTTHA dDDA
    dDDHA dNNA dTA dTHA dDA dDHA dNA dPA dPHA dBA dBHA dMA dTSA dTSHA dDZA dDZHA dZHA dZA d-A dYA
    dRA dLA dVA dSHA dSSA dSA dHA dKSSA cFINAL_CONSONANT_MARK cSIGN_VIRAMA dCANDRABINDU
    dCANDRABINDU_WITH_ORNAMENT dCANDRA_c dANUSVARA dVISARGA cCLUSTER-INITIAL_LETTER_RA
    dFINAL_LETTER_YA fRA fLA fVA cINITIAL_HEAD_MARK cCLOSING_c cMARK_TSHEG dSHAD dDOUBLE_b
    dLONG_TSHEG cINITIAL_DOUBLE-LINED_HEAD_MARK cCLOSING_e cSUBJOINER 11A50 aSOYOMBO_LETTER_A
    bVOWEL_SIGN_I dUE dU dE dO dOE dAI dAU dVOCALIC_R eL cLENGTH_MARK bLETTER_KA cKHA cGA cGHA cNGA
    cCA cCHA cJA cJHA cNYA cTTA cTTHA cDDA cDDHA cNNA cTA cTHA cDA cDHA cNA cPA cPHA cBA cBHA cMA
    cTSA cTSHA cDZA cZHA cZA c-A cYA cRA cLA cVA cSHA cSSA cSA cHA cKSSA bSIGN_JIHVAMULIYA
    cUPADHMANIYA bCLUSTER-INITIAL_LETTER_RA eLA eSHA eSA bFINAL_CONSONANT_SIGN_G eK eNG eD eN eB eM
    eR eL eSH eS e-A bSIGN_ANUSVARA cVISARGA bGEMINATION_MARK bSUBJOINER bMARK_TSHEG cSHAD cDOUBLE_b
    cPLUTA bHEAD_MARK_WITH_MOON_AND_SUN_AND_TRIPLE_FLAME ib gSUN bTERMINAL_MARK-1 d2 11AB0
    aCANADIAN_SYLLABICS_NATTILIK_HI dHII dHO dHOO dHA dHAA dSHRI dSHRII dSHRO dSHROO dSHRA dSHRAA
    cSPE cSPI cSPO cSPA aPAU_CIN_HAU_LETTER_PA eKA eLA eMA eDA eZA eVA eNGA eHA eGA eKHA eSA eBA eCA
    eTA eTHA eNA ePHA eRA eFA eCHA eA eE eI eO eU eUA eIA eFINAL_P fK fT fM fN fL fW fNG fY
    dRISING_TONE_LONG eTONE dSANDHI_GLOTTAL_STOP dRISING_TONE_LONG_FINAL fb dSANDHI_GLOTTAL_STOP_b
    eTONE_LONG eTONE eTONE_LONG_FINAL fb dMID-LEVEL_TONE dGLOTTAL_STOP_VARIANT
    dMID-LEVEL_TONE_LONG_FINAL gb dLOW-FALLING_TONE_LONG fTONE dGLOTTAL_STOP
    dLOW-FALLING_TONE_LONG_FINAL gb dGLOTTAL_STOP_b 11C00 aBHAIKSUKI_LETTER_A cAA cI cII cU cUU
    cVOCALIC_R dRR dL 11C0A cE cAI cO cAU cKA cKHA cGA cGHA cNGA cCA cCHA cJA cJHA cNYA cTTA cTTHA
    cDDA cDDHA cNNA cTA cTHA cDA cDHA cNA cPA cPHA cBA cBHA cMA cYA cRA cLA cVA cSHA cSSA cSA cHA
    bVOWEL_SIGN_AA dI dII dU dUU dVOCALIC_R eRR eL 11C38 dE dAI dO dAU bSIGN_CANDRABINDU cANUSVARA
    cVISARGA cVIRAMA cAVAGRAHA bDANDA bDOUBLE_b bWORD_SEPARATOR bGAP_FILLER-1 d2 11C50 bDIGIT_ZERO
    cONE cTWO cTHREE cFOUR cFIVE cSIX cSEVEN cEIGHT cNINE bNUMBER_ONE cTWO cTHREE cFOUR cFIVE cSIX
    cSEVEN cEIGHT cNINE cTEN cTWENTY cTHIRTY cFORTY cFIFTY cSIXTY cSEVENTY cEIGHTY cNINETY
    bHUNDREDS_UNIT_MARK 11C70 aMARCHEN_HEAD_b bMARK_SHAD bLETTER_KA cKHA cGA cNGA cCA cCHA cJA cNYA
    cTA cTHA cDA cNA cPA cPHA cBA cMA cTSA cTSHA cDZA cWA cZHA cZA c-A cYA cRA cLA cSHA cSA cHA cA
    11C92 bSUBJOINED_LETTER_KA dKHA dGA dNGA dCA dCHA dJA dNYA dTA dTHA dDA dNA dPA dPHA dBA dMA
    dTSA dTSHA dDZA dWA dZHA dZA 11CA9 dYA dRA dLA dSHA dSA dHA dA bVOWEL_SIGN_AA dI dU dE dO
    bSIGN_ANUSVARA cCANDRABINDU 11D00 aMASARAM_GONDI_LETTER_A dAA dI dII dU dUU dE 11D08 dAI dO
    11D0B dAU dKA dKHA dGA dGHA dNGA dCA dCHA dJA dJHA dNYA dTTA dTTHA dDDA dDDHA dNNA dTA dTHA dDA
    dDHA dNA dPA dPHA dBA dBHA dMA dYA dRA dLA dVA dSHA dSSA dSA dHA dLLA dKSSA dJNYA dTRA
    cVOWEL_SIGN_AA eI eII eU eUU eVOCALIC_R 11D3A eE 11D3C eAI eO 11D3F eAU cSIGN_ANUSVARA dVISARGA
    dNUKTA dCANDRA dHALANTA cVIRAMA cREPHA cRA-KARA 11D50 cDIGIT_ZERO dONE dTWO dTHREE dFOUR dFIVE
    dSIX dSEVEN dEIGHT dNINE 11D60 aGUNJALA_GONDI_LETTER_A dAA dI dII dU dUU 11D67 dEE dAI 11D6A dOO
    dAU dYA dVA dBA dBHA dMA dKA dKHA dTA dTHA dLA dGA dGHA dDA dDHA dNA dCA dCHA dTTA dTTHA dLLA
    dJA dJHA dDDA dDDHA dNGA dPA dPHA dHA dRA dSA cVOWEL_SIGN_AA eI eII eU eUU 11D90 eEE eAI 11D93
    eOO eAU cSIGN_ANUSVARA dVISARGA cVIRAMA cOM 11DA0 cDIGIT_ZERO dONE dTWO dTHREE dFOUR dFIVE dSIX
    dSEVEN dEIGHT dNINE 11EE0 aMAKASAR_LETTER_KA cGA cNGA cPA cBA cMA cTA cDA cNA cCA cJA cNYA cYA
    cRA cLA cVA cSA cA bANGKA bVOWEL_SIGN_I dU dE dO bPASSIMBANG bEND_OF_SECTION 11FB0
    aLISU_LETTER_YHA 11FC0 aTAMIL_FRACTION_ONE_THREE-HUNDRED-AND-TWENTIETH dONE-HUNDRED-AND-SIXTIETH
    dEIGHTIETH dSIXTY-FOURTH dFORTIETH dTHIRTY-SECOND cTHREE_EIGHTIETHS dSIXTY-FOURTHS
    cONE_TWENTIETH dSIXTEENTH-1 e2 dTENTH dEIGHTH cTHREE_TWENTIETHS dSIXTEENTHS cONE_FIFTH dQUARTER
    dHALF-1 e2 cTHREE_QUARTERS cDOWNSCALING_FACTOR_KIIZH bSIGN_NEL cCEVITU cAAZHAAKKU cUZHAKKU
    cMUUVUZHAKKU cKURUNI cPATHAKKU cMUKKURUNI cKAACU cPANAM cPON cVARAAKAN cPAARAM cKUZHI cVELI
    bWET_CULTIVATION_SIGN bDRY_c bLAND_b bSALT_PAN_b bTRADITIONAL_CREDIT_b cNUMBER_b bCURRENT_b
    bAND_ODD_b bSPENT_b bTOTAL_b bIN_POSSESSION_b bSTARTING_FROM_b bSIGN_MUTHALIYA cVAKAIYARAA 11FFF
    bPUNCTUATION_END_OF_TEXT aCUNEIFORM_SIGN_A cA_TIMES_b eBAD eGAN2_TENU eHA eIGI eLAGAR_GUNU eMUSH
    eSAG cA2 cAB cAB_TIMES_ASH2 eDUN3_GUNU eGAL eGAN2_TENU eHA eIGI_GUNU eIMIN eLAGAB eSHESH
    eU_PLUS_U_PLUS_U dGUNU cAB2 cAB2_TIMES_BALAG eGAN2_TENU eME_PLUS_EN eSHA3 eTAK4 cAD cAK
    cAK_TIMES_ERIN2 eSHITA_PLUS_GISH cAL cAL_TIMES_b eDIM2 eGISH eHA eKAD3 eKI eSHE eUSH cALAN
    cALEPH cAMAR cAMAR_TIMES_SHE cAN cAN_OVER_b dTHREE_TIMES dPLUS_NAGA_OPPOSING_AN_PLUS_NAGA
    fSQUARED cANSHE cAPIN cARAD cARAD_TIMES_KUR cARKAB cASAL2 cASH cASH_ZIDA_TENU dKABA_b
    dOVER_ASH_TUG2_OVER_TUG2_TUG2_OVER_TUG2_PAP fOVER_ASH gASH_CROSSING_ASH_OVER_ASH_OVER_b cASH2
    cASHGAB cBA cBAD cBAG3 cBAHAR2 cBAL cBAL_OVER_b cBALAG cBAR cBARA2 cBI cBI_TIMES_A eGAR
    eIGI_GUNU cBU cBU_OVER_BU_AB fUN dCROSSING_BU cBULUG cBULUG_OVER_b cBUR cBUR2 cDA cDAG
    cDAG_KISIM5_TIMES_A_PLUS_MASH fAMAR fBALAG fBI fGA fGA_PLUS_MASH fGI fGIR2 fGUD fHA fIR
    fIR_PLUS_LU fKAK fLA fLU fLU_PLUS_MASH2 fLUM fNE fPAP_PLUS_PAP fSI fTAK4 fU2_PLUS_GIR2 fUSH cDAM
    cDAR cDARA3 cDARA4 cDI cDIB cDIM cDIM_TIMES_SHE cDIM2 cDIN cDIN_KASKAL_U_GUNU_DISH cb cDU
    cDU_OVER_b dGUNU dSHESHIG cDUB cDUB_TIMES_ESH2 cDUB2 cDUG cDUGUD cDUH cDUN cDUN3 cDUN3_GUNU
    dGUNU_b cDUN4 cDUR2 cE cE_TIMES_PAP dOVER_E_NUN_OVER_NUN cE2 cE2_TIMES_A_PLUS_HA_PLUS_DA eGAR
    eMI eSAL eSHE eU cEDIN cEGIR cEL cEN cEN_TIMES_GAN2 eGAN2_TENU eME dCROSSING_EN dOPPOSING_b
    dSQUARED cEREN cERIN2 cESH2 cEZEN cEZEN_TIMES_A eA_PLUS_LAL gLAL_TIMES_b eAN eBAD eDUN3_GUNU
    fGUNU_b eHA eHA_GUNU eIGI_b eKASKAL eKASKAL_SQUARED eKU3 eLA eLAL_TIMES_LAL eLI eLU eU2 eUD cGA
    cGA_GUNU cGA2 cGA2_TIMES_A_PLUS_DA_PLUS_HA gb gIGI eAB2_TENU_PLUS_TAB eAN eASH eASH2_PLUS_GAL
    eBAD eBAR_PLUS_RA eBUR eBUR_PLUS_RA eDA eDI eDIM_TIMES_SHE eDUB eEL eEL_PLUS_LA eEN
    eEN_TIMES_GAN2_TENU ec eGAR eGI eGI4 eGI4_PLUS_A eGIR2_PLUS_SU eHA_PLUS_LU_PLUS_ESH2 eHAL
    eHAL_PLUS_LA eHI_PLUS_LI eHUB2 eIGI_GUNU eISH_PLUS_HU_PLUS_ASH eKAK eKASKAL eKID eKID_PLUS_LAL
    eKU3_PLUS_AN eLA eME_PLUS_EN eMI eNUN eNUN_OVER_b ePA eSAL eSAR eSHE eSHE_PLUS_TUR eSHID eSUM
    eTAK4 eU eUD eUD_PLUS_DU dOVER_GA2 cGABA cGABA_CROSSING_b cGAD cGAD_OVER_GAD_GAR_OVER_GAR cGAL
    cGAL_GAD_OVER_GAD_GAR_OVER_GAR cGALAM cGAM cGAN cGAN2 cGAN2_TENU dOVER_GAN2 dCROSSING_b cGAR
    cGAR3 cGASHAN cGESHTIN cGESHTIN_TIMES_KUR cGI cGI_TIMES_E eU dCROSSING_GI cGI4 cGI4_OVER_b
    dCROSSING_b cGIDIM cGIR2 cGIR2_GUNU cGIR3 cGIR3_TIMES_A_PLUS_IGI eGAN2_TENU eIGI eLU_PLUS_b ePA
    cGISAL cGISH cGISH_CROSSING_b dTIMES_BAD eTAK4 dTENU cGU cGU_CROSSING_b cGU2 cGU2_TIMES_KAK
    eKAK_TIMES_IGI_GUNU eNUN eSAL_PLUS_TUG2 dGUNU cGUD cGUD_TIMES_A_PLUS_KUR eb dOVER_GUD_LUGAL cGUL
    cGUM cGUM_TIMES_SHE cGUR cGUR7 cGURUN cGURUSH cHA cHA_TENU dGUNU cHAL cHI cHI_TIMES_ASH eASH2
    eBAD eDISH eGAD eKIN eNUN eSHE eU cHU cHUB2 cHUB2_TIMES_AN eHAL eKASKAL eLISH eUD cHUL2 cI cI_A
    cIB cIDIM cIDIM_OVER_IDIM_BUR fSQUARED cIG cIGI cIGI_DIB dRI dOVER_IGI_SHIR_OVER_SHIR_UD_OVER_UD
    dGUNU cIL cIL_TIMES_GAN2_TENU cIL2 cIM cIM_TIMES_TAK4 dCROSSING_IM dOPPOSING_b dSQUARED cIMIN
    cIN cIR cISH cKA cKA_TIMES_A eAD eAD_PLUS_KU3 eASH2 eBAD eBALAG eBAR eBI eERIN2 eESH2 eGA eGAL
    eGAN2_TENU eGAR eGAR_PLUS_SHA3_PLUS_A eGI eGIR2 eGISH_PLUS_SAR fCROSSING_GISH eGU eGUR7 eIGI eIM
    eKAK eKI eKID eLI eLU eME eME_PLUS_DU gGI gTE eMI eMI_PLUS_NUNUZ eNE eNUN ePI eRU eSA eSAR eSHA
    eSHE eSHID eSHU eSIG eSUHUR eTAR eU eU2 eUD eUMUM_TIMES_PA eUSH eZI cKA2 cKA2_CROSSING_b cKAB
    cKAD2 cKAD3 cKAD4 cKAD5 cKAD5_OVER_b cKAK cKAK_TIMES_IGI_GUNU cKAL cKAL_TIMES_BAD dCROSSING_KAL
    cKAM2 cKAM4 cKASKAL cKASKAL_LAGAB_TIMES_U_OVER_LAGAB_TIMES_U dOVER_KASKAL_h cKESH2 cKI
    cKI_TIMES_BAD eU eUD cKID cKIN cKISAL cKISH cKISIM5 cKISIM5_OVER_b cKU
    cKU_OVER_HI_TIMES_ASH2_KU_OVER_HI_TIMES_ASH2 cKU3 cKU4 cKU4_VARIANT_FORM cKU7 cKUL cKUL_GUNU
    cKUN cKUR cKUR_OPPOSING_b cKUSHU2 cKWU318 cLA cLAGAB cLAGAB_TIMES_A eA_PLUS_DA_PLUS_HA gGAR gLAL
    eAL eAN eASH_ZIDA_TENU eBAD eBI eDAR eEN eGA eGAR eGUD eGUD_PLUS_b eHA eHAL eHI_TIMES_NUN
    eIGI_GUNU eIM eIM_PLUS_HA gLU eKI eKIN eKU3 eKUL eKUL_PLUS_HI_PLUS_A eLAGAB eLISH eLU eLUL eME
    eME_PLUS_EN eMUSH eNE eSHE_PLUS_SUM eSHITA_PLUS_GISH_PLUS_ERIN2 hTENU eSHU2 eSHU2_PLUS_b eSUM
    eTAG eTAK4 eTE_PLUS_A_PLUS_SU_PLUS_NA eU eU_PLUS_A gU_PLUS_U eU2_PLUS_ASH eUD eUSH dSQUARED
    cLAGAR cLAGAR_TIMES_SHE eSHE_PLUS_SUM dGUNU dGUNU_OVER_LAGAR_GUNU_SHE cLAHSHU cLAL cLAL_TIMES_b
    cLAM cLAM_TIMES_KUR eKUR_PLUS_RU cLI cLIL cLIMMU2 cLISH cLU cLU_TIMES_BAD cLU2 cLU2_TIMES_AL
    eBAD eESH2 eESH2_TENU eGAN2_b eHI_TIMES_BAD eIM eKAD2 eKAD3 eKAD3_PLUS_ASH eKI eLA_PLUS_ASH
    eLAGAB eME_PLUS_EN eNE eNU eSI_PLUS_ASH eSIK2_PLUS_BU eTUG2 dTENU dCROSSING_LU2 dOPPOSING_b
    dSQUARED dSHESHIG cLU3 cLUGAL cLUGAL_OVER_b dOPPOSING_b dSHESHIG cLUH cLUL cLUM cLUM_OVER_b
    eLUM_GAR_OVER_GAR cMA cMA_TIMES_TAK4 dGUNU cMA2 cMAH cMAR cMASH cMASH2 cME cMES cMI cMIN cMU
    cMU_OVER_b cMUG cMUG_GUNU cMUNSUB cMURGU2 cMUSH cMUSH_TIMES_A eKUR eZA dOVER_MUSH
    eMUSH_TIMES_A_PLUS_NA dCROSSING_MUSH cMUSH3 cMUSH3_TIMES_A eA_PLUS_DI eb dGUNU cNA cNA2 cNAGA
    cNAGA_INVERTED dTIMES_SHU_TENU dOPPOSING_NAGA cNAGAR cNAM_NUTILLU cNAM cNAM2 cNE cNE_TIMES_A eUD
    dSHESHIG cNI cNI_TIMES_E cNI2 cNIM cNIM_TIMES_GAN2_TENU eGAR_PLUS_c cNINDA2 cNINDA2_TIMES_AN
    eASH eASH_PLUS_b eGUD eME_PLUS_GAN2_TENU eNE eNUN eSHE eSHE_PLUS_A_AN gASH gASH_PLUS_b eU2_c
    eUSH cNISAG cNU cNU11 cNUN cNUN_LAGAR_TIMES_GAR fMASH fSAL fSAL_OVER_NUN_LAGAR_TIMES_b fUSH
    dTENU dOVER_NUN dCROSSING_b eNUN_LAGAR_OVER_LAGAR cNUNUZ cNUNUZ_AB2_TIMES_ASHGAB fBI fDUG fGUD
    fIGI_GUNU fKAD3 fLA fNE fSILA3 fU2 dKISIM5_TIMES_BI fBI_U cPA cPAD cPAN cPAP cPESH2 cPI
    cPI_TIMES_A eAB eBI eBU eE eI eIB eU eU2 dCROSSING_PI cPIRIG cPIRIG_TIMES_KAL eUD eZA
    dOPPOSING_PIRIG cRA cRAB cRI cRU cSA cSAG_NUTILLU cSAG cSAG_TIMES_A eDU eDUB eHA eKAK eKUR eLUM
    eMI eNUN eSAL eSHID eTAB eU2 eUB eUM eUR eUSH dOVER_SAG dGUNU cSAL cSAL_LAGAB_TIMES_ASH2 cSANGA2
    cSAR cSHA cSHA3 cSHA3_TIMES_A eBAD eGISH eNE eSHU2 eTUR eU eU_PLUS_A cSHA6 cSHAB6 cSHAR2 cSHE
    cSHE_HU dOVER_SHE_GAD_OVER_GAD_GAR_OVER_GAR fTAB_OVER_TAB_d cSHEG9 cSHEN cSHESH cSHESH2
    cSHESHLAM cSHID cSHID_TIMES_A eIM cSHIM cSHIM_TIMES_A eBAL eBULUG eDIN eGAR eIGI eIGI_GUNU
    eKUSHU2 eLUL eMUG eSAL cSHINIG cSHIR cSHIR_TENU dOVER_SHIR_BUR_OVER_BUR cSHITA cSHU
    cSHU_OVER_INVERTED_b cSHU2 cSHUBUR cSI cSI_GUNU cSIG cSIG4 cSIG4_OVER_SIG4_SHU2 cSIK2 cSILA3 cSU
    cSU_OVER_b cSUD cSUD2 cSUHUR cSUM cSUMASH cSUR cSUR9 cTA cTA_ASTERISK dTIMES_HI eMI dGUNU cTAB
    cTAB_OVER_TAB_NI_OVER_NI_DISH_OVER_DISH dSQUARED cTAG cTAG_TIMES_BI eGUD eSHE eSHU eTUG2 eUD
    cTAK4 cTAR cTE cTE_GUNU cTI cTI_TENU cTIL cTIR cTIR_TIMES_TAK4 dOVER_TIR
    eTIR_GAD_OVER_GAD_GAR_OVER_GAR cTU cTUG2 cTUK cTUM cTUR cTUR_OVER_TUR_ZA_OVER_ZA cU cU_GUD dU_U
    dOVER_U_PA_OVER_PA_GAR_OVER_GAR fSUR_OVER_SUR fU_REVERSED_OVER_U_REVERSED cU2 cUB cUD cUD_KUSHU2
    dTIMES_BAD eMI eU_PLUS_U_PLUS_U iU_GUNU db dSHESHIG dSHESHIG_TIMES_BAD cUDUG cUM cUM_TIMES_LAGAB
    eME_PLUS_DA eSHA3 eU cUMBIN cUMUM cUMUM_TIMES_KASKAL ePA cUN cUN_GUNU cUR cUR_CROSSING_b
    dSHESHIG cUR2 cUR2_TIMES_A_PLUS_HA gNA eAL eHA eNUN eU2 eU2_PLUS_ASH gBI cUR4 cURI cURI3 cURU
    cURU_TIMES_A eASHGAB eBAR eDUN eGA eGAL eGAN2_TENU eGAR eGU eHA eIGI eIM eISH eKI eLUM eMIN ePA
    eSHE eSIG4 eTU eU_PLUS_GUD eUD eURUDA cb cURUDA_TIMES_U cUSH cUSH_TIMES_A eKU eKUR eTAK4 cUSHX
    cUSH2 cUSHUMX cUTUKI cUZ3 cUZ3_TIMES_KASKAL cUZU cZA cZA_TENU dSQUARED_TIMES_KUR cZAG cZAMX cZE2
    cZI cZI_OVER_b cZI3 cZIB cZIB_KABA_TENU cZIG cZIZ2 cZU cZU5 cZU5_TIMES_A cZUBUR cZUM
    cKAP_ELAMITE cAB_TIMES_NUN cAB2_TIMES_A cAMAR_TIMES_KUG cDAG_KISIM5_TIMES_U2_PLUS_MASH cDAG3
    cDISH_PLUS_SHU cDUB_TIMES_SHE cEZEN_TIMES_GUD eSHE cGA2_TIMES_AN_PLUS_KAK_PLUS_A eASH2 cGE22
    cGIG cHUSH cKA_TIMES_ANSHE eASH3 eGISH eGUD eHI_TIMES_ASH2 eLUM ePA eSHUL eTU eUR2
    cLAGAB_TIMES_GI cLU2_SHESHIG_TIMES_BAD dTIMES_ESH2_PLUS_LAL eSHU cMESH cMUSH3_TIMES_ZA cNA4 cNIN
    cNIN9 cNINDA2_TIMES_BAL eGI cNU11_ROTATED_NINETY_DEGREES cPESH2_ASTERISK cPIR2
    cSAG_TIMES_IGI_GUNU cTI2 cUM_TIMES_ME cU_U 12400 bNUMERIC_SIGN_TWO_ASH dTHREE_b dFOUR_b dFIVE_b
    dSIX_b dSEVEN_b dEIGHT_b dNINE_b dTHREE_DISH dFOUR_b dFIVE_b dSIX_b dSEVEN_b dEIGHT_b dNINE_b
    dFOUR_U dFIVE_b dSIX_b dSEVEN_b dEIGHT_b dNINE_b dONE_GESH2 dTWO_b dTHREE_b dFOUR_b dFIVE_b
    dSIX_b dSEVEN_b dEIGHT_b dNINE_b dONE_GESHU dTWO_b dTHREE_b dFOUR_b dFIVE_b dTWO_SHAR2 dTHREE_b
    eSHAR2_VARIANT_FORM dFOUR_SHAR2 dFIVE_b dSIX_b dSEVEN_b dEIGHT_b dNINE_b dONE_SHARU dTWO_b
    dTHREE_b eSHARU_VARIANT_FORM dFOUR_SHARU dFIVE_b dSHAR2_TIMES_GAL_PLUS_DISH hMIN dONE_BURU
    dTWO_b dTHREE_b eBURU_VARIANT_FORM dFOUR_BURU dFIVE_b dTHREE_VARIANT_FORM_ESH16 gESH21
    dFOUR_VARIANT_FORM_LIMMU gLIMMU4 gLIMMU_A hB dSIX_VARIANT_FORM_ASH9 dSEVEN_VARIANT_FORM_IMIN3
    gIMIN_A hB dEIGHT_VARIANT_FORM_USSU gUSSU3 dNINE_VARIANT_FORM_ILIMMU gILIMMU3 gILIMMU4 gILIMMU_A
    dTWO_ASH_TENU dTHREE_c dFOUR_c dFIVE_c dSIX_c dONE_BAN2 dTWO_b dTHREE_b dFOUR_b
    eBAN2_VARIANT_FORM dFIVE_BAN2 eBAN2_VARIANT_FORM dNIGIDAMIN dNIGIDAESH dONE_ESHE3 dTWO_b
    dONE_THIRD_DISH dTWO_THIRDS_b dFIVE_SIXTHS_b dONE_THIRD_VARIANT_FORM_A dTWO_THIRDS_d
    dONE_EIGHTH_ASH eQUARTER_b dOLD_ASSYRIAN_ONE_SIXTH gQUARTER dONE_QUARTER_GUR eHALF_b
    dELAMITE_ONE_THIRD eTWO_THIRDS eFORTY eFIFTY dFOUR_U_VARIANT_FORM dFIVE_d dSIX_d dSEVEN_d
    dEIGHT_d dNINE_d 12470 bPUNCTUATION_SIGN_OLD_ASSYRIAN_WORD_DIVIDER dVERTICAL_COLON dDIAGONAL_b
    eTRICOLON eQUADCOLON 12480 bSIGN_AB_TIMES_NUN_TENU eSHU2 cAD_TIMES_ESH2 cBAD_TIMES_DISH_TENU
    cBAHAR2_TIMES_AB2 eNI eZA cBU_OVER_BU_TIMES_NA2 cDA_TIMES_TAK4 cDAG_TIMES_KUR cDIM_TIMES_IGI
    eU_U_U cDIM2_TIMES_UD cDUG_TIMES_ANSHE eASH eASH_AT_LEFT eDIN eDUN eERIN2 eGA eGI eGIR2_GUNU
    eGISH eHA eHI eIGI_GUNU eKASKAL eKUR eKUSHU2 eKUSHU2_PLUS_KASKAL eLAK-020 eLAM eLAM_TIMES_KUR
    eLUH_PLUS_GISH eMASH eMES eMI eNI ePI eSHE eSI_GUNU cE2_TIMES_KUR ePAP cERIN2_X
    cESH2_CROSSING_ESH2 cEZEN_SHESHIG_TIMES_ASH fHI fIGI_GUNU fLA fLAL fME fMES fSU dc
    cGA2_TIMES_BAHAR2 eDIM_GUNU eDUG_TIMES_IGI_b gKASKAL eEREN eGA eGAR_PLUS_DI gNE eHA_PLUS_A
    eKUSHU2_PLUS_KASKAL eLAM eLAM_TIMES_KUR eLUH eMUSH eNE eNE_PLUS_E2 gGI eSHIM eZIZ2
    cGABA_ROTATED_NINETY_DEGREES cGESHTIN_TIMES_U cGISH_TIMES_GISH_CROSSING_GISH cGU2_TIMES_IGI_GUNU
    cGUD_PLUS_GISH_TIMES_TAK4 cHA_TENU_GUNU cHI_TIMES_ASH_OVER_HI_TIMES_ASH cKA_TIMES_BU eKA eU_U_U
    eUR cLAGAB_TIMES_ZU_OVER_ZU cLAK-003 d021 d025 d030 d050 d051 d062 d079_OVER_LAK-079_GUNU d080
    d081_OVER_LAK-081 d092 d130 d142 d210 d219 d220 d225 d228 d238 d265 d266 d343 d347 d348 d383
    d384 d390 d441 d449 d449_TIMES_GU fIGI fPAP_PLUS_LU3 hPAP_PLUS_b fU2_PLUS_BA d450 d457 d470 d483
    d490 d492 d493 d495 d550 d608 d617 d617_TIMES_ASH fBAD fDUN3_GUNU_GUNU fKU3 fLA fTAR fTE fU2 fUD
    fURUDA d636 d648 d648_TIMES_DUB fGA fIGI fIGI_GUNU fNI fPAP_PLUS_PAP_PLUS_LU3 fSHESH_PLUS_KI fUD
    fURUDA d724 d749 cLU2_GUNU_TIMES_ASH dTIMES_DISH eHAL ePAP ePAP_PLUS_PAP_PLUS_LU3 eTAK4
    cMI_PLUS_ZA7 cMUSH_OVER_MUSH_TIMES_GA gKAK cNINDA2_TIMES_DIM_GUNU eGISH eGUL eHI eKESH2 eLAK-050
    eMASH ePAP_PLUS_PAP eU eU_PLUS_b eURUDA cSAG_GUNU_TIMES_HA dTIMES_EN eSHE_AT_LEFT eTAK4
    cSHA6_TENU cSHE_OVER_SHE dPLUS_HUB2 eNAM2 eSAR cSHU2_PLUS_DUG_TIMES_NI eE2_TIMES_AN
    cSI_TIMES_TAK4 cTAK4_PLUS_SAG cTUM_TIMES_GAN2_TENU eTHREE_DISH cUR2_INVERTED dTIMES_UD
    cURU_TIMES_DARA3 eLAK-668 eLU3 cZA7 cZU_OVER_ZU_PLUS_SAR cZU5_TIMES_THREE_DISH_TENU 12F90
    aCYPRO-MINOAN_SIGN_CM001 dCM002 dCM004 dCM005 dCM006 dCM007 dCM008 dCM009 dCM010 dCM011 dCM012
    dCM012B dCM013 dCM015 dCM017 dCM019 dCM021 dCM023 dCM024 dCM025 dCM026 dCM027 dCM028 dCM029
    dCM030 dCM033 dCM034 dCM035 dCM036 dCM037 dCM038 dCM039 dCM040 dCM041 dCM044 dCM046 dCM047
    dCM049 dCM050 dCM051 dCM052 dCM053 dCM054 dCM055 dCM056 dCM058 dCM059 dCM060 dCM061 dCM062
    dCM063 dCM064 dCM066 dCM067 dCM068 dCM069 dCM070 dCM071 dCM072 dCM073 dCM074 dCM075 dCM075B
    dCM076 dCM078 dCM079 dCM080 dCM081 dCM082 dCM083 dCM084 dCM085 dCM086 dCM087 dCM088 dCM089
    dCM090 dCM091 dCM092 dCM094 dCM095 dCM096 dCM097 dCM098 dCM099 dCM100 dCM101 dCM102 dCM103
    dCM104 dCM105 dCM107 dCM108 dCM109 dCM110 dCM112 dCM114 dCM301 dCM302 13000
    aEGYPTIAN_HIEROGLYPH_A001 cA002 cA003 cA004 cA005 cA005A cA006 cA006A cA006B cA007 cA008 cA009
    cA010 cA011 cA012 cA013 cA014 cA014A cA015 cA016 cA017 cA017A cA018 cA019 cA020 cA021 cA022
    cA023 cA024 cA025 cA026 cA027 cA028 cA029 cA030 cA031 cA032 cA032A cA033 cA034 cA035 cA036 cA037
    cA038 cA039 cA040 cA040A cA041 cA042 cA042A cA043 cA043A cA044 cA045 cA045A cA046 cA047 cA048
    cA049 cA050 cA051 cA052 cA053 cA054 cA055 cA056 cA057 cA058 cA059 cA060 cA061 cA062 cA063 cA064
    cA065 cA066 cA067 cA068 cA069 cA070 cB001 cB002 cB003 cB004 cB005 cB005A cB006 cB007 cB008 cB009
    cC001 cC002 cC002A cC002B cC002C cC003 cC004 cC005 cC006 cC007 cC008 cC009 cC010 cC010A cC011
    cC012 cC013 cC014 cC015 cC016 cC017 cC018 cC019 cC020 cC021 cC022 cC023 cC024 cD001 cD002 cD003
    cD004 cD005 cD006 cD007 cD008 cD008A cD009 cD010 cD011 cD012 cD013 cD014 cD015 cD016 cD017 cD018
    cD019 cD020 cD021 cD022 cD023 cD024 cD025 cD026 cD027 cD027A cD028 cD029 cD030 cD031 cD031A
    cD032 cD033 cD034 cD034A cD035 cD036 cD037 cD038 cD039 cD040 cD041 cD042 cD043 cD044 cD045 cD046
    cD046A cD047 cD048 cD048A cD049 cD050 cD050A cD050B cD050C cD050D cD050E cD050F cD050G cD050H
    cD050I cD051 cD052 cD052A cD053 cD054 cD054A cD055 cD056 cD057 cD058 cD059 cD060 cD061 cD062
    cD063 cD064 cD065 cD066 cD067 cD067A cD067B cD067C cD067D cD067E cD067F cD067G cD067H cE001
    cE002 cE003 cE004 cE005 cE006 cE007 cE008 cE008A cE009 cE009A cE010 cE011 cE012 cE013 cE014
    cE015 cE016 cE016A cE017 cE017A cE018 cE019 cE020 cE020A cE021 cE022 cE023 cE024 cE025 cE026
    cE027 cE028 cE028A cE029 cE030 cE031 cE032 cE033 cE034 cE034A cE036 cE037 cE038 cF001 cF001A
    cF002 cF003 cF004 cF005 cF006 cF007 cF008 cF009 cF010 cF011 cF012 cF013 cF013A cF014 cF015 cF016
    cF017 cF018 cF019 cF020 cF021 cF021A cF022 cF023 cF024 cF025 cF026 cF027 cF028 cF029 cF030 cF031
    cF031A cF032 cF033 cF034 cF035 cF036 cF037 cF037A cF038 cF038A cF039 cF040 cF041 cF042 cF043
    cF044 cF045 cF045A cF046 cF046A cF047 cF047A cF048 cF049 cF050 cF051 cF051A cF051B cF051C cF052
    cF053 cG001 cG002 cG003 cG004 cG005 cG006 cG006A cG007 cG007A cG007B cG008 cG009 cG010 cG011
    cG011A cG012 cG013 cG014 cG015 cG016 cG017 cG018 cG019 cG020 cG020A cG021 cG022 cG023 cG024
    cG025 cG026 cG026A cG027 cG028 cG029 cG030 cG031 cG032 cG033 cG034 cG035 cG036 cG036A cG037
    cG037A cG038 cG039 cG040 cG041 cG042 cG043 cG043A cG044 cG045 cG045A cG046 cG047 cG048 cG049
    cG050 cG051 cG052 cG053 cG054 cH001 cH002 cH003 cH004 cH005 cH006 cH006A cH007 cH008 cI001 cI002
    cI003 cI004 cI005 cI005A cI006 cI007 cI008 cI009 cI009A cI010 cI010A cI011 cI011A cI012 cI013
    cI014 cI015 cK001 cK002 cK003 cK004 cK005 cK006 cK007 cK008 cL001 cL002 cL002A cL003 cL004 cL005
    cL006 cL006A cL007 cL008 cM001 cM001A cM001B cM002 cM003 cM003A cM004 cM005 cM006 cM007 cM008
    cM009 cM010 cM010A cM011 cM012 cM012A cM012B cM012C cM012D cM012E cM012F cM012G cM012H cM013
    cM014 cM015 cM015A cM016 cM016A cM017 cM017A cM018 cM019 cM020 cM021 cM022 cM022A cM023 cM024
    cM024A cM025 cM026 cM027 cM028 cM028A cM029 cM030 cM031 cM031A cM032 cM033 cM033A cM033B cM034
    cM035 cM036 cM037 cM038 cM039 cM040 cM040A cM041 cM042 cM043 cM044 cN001 cN002 cN003 cN004 cN005
    cN006 cN007 cN008 cN009 cN010 cN011 cN012 cN013 cN014 cN015 cN016 cN017 cN018 cN018A cN018B
    cN019 cN020 cN021 cN022 cN023 cN024 cN025 cN025A cN026 cN027 cN028 cN029 cN030 cN031 cN032 cN033
    cN033A cN034 cN034A cN035 cN035A cN036 cN037 cN037A cN038 cN039 cN040 cN041 cN042 cNL001 cNL002
    cNL003 cNL004 cNL005 cNL005A cNL006 cNL007 cNL008 cNL009 cNL010 cNL011 cNL012 cNL013 cNL014
    cNL015 cNL016 cNL017 cNL017A cNL018 cNL019 cNL020 cNU001 cNU002 cNU003 cNU004 cNU005 cNU006
    cNU007 cNU008 cNU009 cNU010 cNU010A cNU011 cNU011A cNU012 cNU013 cNU014 cNU015 cNU016 cNU017
    cNU018 cNU018A cNU019 cNU020 cNU021 cNU022 cNU022A cO001 cO001A cO002 cO003 cO004 cO005 cO005A
    cO006 cO006A cO006B cO006C cO006D cO006E cO006F cO007 cO008 cO009 cO010 cO010A cO010B cO010C
    cO011 cO012 cO013 cO014 cO015 cO016 cO017 cO018 cO019 cO019A cO020 cO020A cO021 cO022 cO023
    cO024 cO024A cO025 cO025A cO026 cO027 cO028 cO029 cO029A cO030 cO030A cO031 cO032 cO033 cO033A
    cO034 cO035 cO036 cO036A cO036B cO036C cO036D cO037 cO038 cO039 cO040 cO041 cO042 cO043 cO044
    cO045 cO046 cO047 cO048 cO049 cO050 cO050A cO050B cO051 cP001 cP001A cP002 cP003 cP003A cP004
    cP005 cP006 cP007 cP008 cP009 cP010 cP011 cQ001 cQ002 cQ003 cQ004 cQ005 cQ006 cQ007 cR001 cR002
    cR002A cR003 cR003A cR003B cR004 cR005 cR006 cR007 cR008 cR009 cR010 cR010A cR011 cR012 cR013
    cR014 cR015 cR016 cR016A cR017 cR018 cR019 cR020 cR021 cR022 cR023 cR024 cR025 cR026 cR027 cR028
    cR029 cS001 cS002 cS002A cS003 cS004 cS005 cS006 cS006A cS007 cS008 cS009 cS010 cS011 cS012
    cS013 cS014 cS014A cS014B cS015 cS016 cS017 cS017A cS018 cS019 cS020 cS021 cS022 cS023 cS024
    cS025 cS026 cS026A cS026B cS027 cS028 cS029 cS030 cS031 cS032 cS033 cS034 cS035 cS035A cS036
    cS037 cS038 cS039 cS040 cS041 cS042 cS043 cS044 cS045 cS046 cT001 cT002 cT003 cT003A cT004 cT005
    cT006 cT007 cT007A cT008 cT008A cT009 cT009A cT010 cT011 cT011A cT012 cT013 cT014 cT015 cT016
    cT016A cT017 cT018 cT019 cT020 cT021 cT022 cT023 cT024 cT025 cT026 cT027 cT028 cT029 cT030 cT031
    cT032 cT032A cT033 cT033A cT034 cT035 cT036 cU001 cU002 cU003 cU004 cU005 cU006 cU006A cU006B
    cU007 cU008 cU009 cU010 cU011 cU012 cU013 cU014 cU015 cU016 cU017 cU018 cU019 cU020 cU021 cU022
    cU023 cU023A cU024 cU025 cU026 cU027 cU028 cU029 cU029A cU030 cU031 cU032 cU032A cU033 cU034
    cU035 cU036 cU037 cU038 cU039 cU040 cU041 cU042 cV001 cV001A cV001B cV001C cV001D cV001E cV001F
    cV001G cV001H cV001I cV002 cV002A cV003 cV004 cV005 cV006 cV007 cV007A cV007B cV008 cV009 cV010
    cV011 cV011A cV011B cV011C cV012 cV012A cV012B cV013 cV014 cV015 cV016 cV017 cV018 cV019 cV020
    cV020A cV020B cV020C cV020D cV020E cV020F cV020G cV020H cV020I cV020J cV020K cV020L cV021 cV022
    cV023 cV023A cV024 cV025 cV026 cV027 cV028 cV028A cV029 cV029A cV030 cV030A cV031 cV031A cV032
    cV033 cV033A cV034 cV035 cV036 cV037 cV037A cV038 cV039 cV040 cV040A cW001 cW002 cW003 cW003A
    cW004 cW005 cW006 cW007 cW008 cW009 cW009A cW010 cW010A cW011 cW012 cW013 cW014 cW014A cW015
    cW016 cW017 cW017A cW018 cW018A cW019 cW020 cW021 cW022 cW023 cW024 cW024A cW025 cX001 cX002
    cX003 cX004 cX004A cX004B cX005 cX006 cX006A cX007 cX008 cX008A cY001 cY001A cY002 cY003 cY004
    cY005 cY006 cY007 cY008 cZ001 cZ002 cZ002A cZ002B cZ002C cZ002D cZ003 cZ003A cZ003B cZ004 cZ004A
    cZ005 cZ005A cZ006 cZ007 cZ008 cZ009 cZ010 cZ011 cZ012 cZ013 cZ014 cZ015 cZ015A cZ015B cZ015C
    cZ015D cZ015E cZ015F cZ015G cZ015H cZ015I cZ016 cZ016A cZ016B cZ016C cZ016D cZ016E cZ016F cZ016G
    cZ016H cAA001 cAA002 cAA003 cAA004 cAA005 cAA006 cAA007 cAA007A cAA007B cAA008 cAA009 cAA010
    cAA011 cAA012 cAA013 cAA014 cAA015 cAA016 cAA017 cAA018 cAA019 cAA020 cAA021 cAA022 cAA023
    cAA024 cAA025 cAA026 cAA027 cAA028 cAA029 cAA030 cAA031 cAA032 13430 cVERTICAL_JOINER
    cHORIZONTAL_b cINSERT_AT_TOP_START eBOTTOM_b eTOP_END eBOTTOM_b cOVERLAY_MIDDLE cBEGIN_SEGMENT
    cEND_b 14400 aANATOLIAN_HIEROGLYPH_A001 cA002 cA003 cA004 cA005 cA006 cA007 cA008 cA009 cA010
    cA010A cA011 cA012 cA013 cA014 cA015 cA016 cA017 cA018 cA019 cA020 cA021 cA022 cA023 cA024 cA025
    cA026 cA026A cA027 cA028 cA029 cA030 cA031 cA032 cA033 cA034 cA035 cA036 cA037 cA038 cA039
    cA039A cA040 cA041 cA041A cA042 cA043 cA044 cA045 cA045A cA046 cA046A cA046B cA047 cA048 cA049
    cA050 cA051 cA052 cA053 cA054 cA055 cA056 cA057 cA058 cA059 cA060 cA061 cA062 cA063 cA064 cA065
    cA066 cA066A cA066B cA066C cA067 cA068 cA069 cA070 cA071 cA072 cA073 cA074 cA075 cA076 cA077
    cA078 cA079 cA080 cA081 cA082 cA083 cA084 cA085 cA086 cA087 cA088 cA089 cA090 cA091 cA092 cA093
    cA094 cA095 cA096 cA097 cA097A cA098 cA098A cA099 cA100 cA100A cA101 cA101A cA102 cA102A cA103
    cA104 cA104A cA104B cA104C cA105 cA105A cA105B cA106 cA107 cA107A cA107B cA107C cA108 cA109
    cA110 cA110A cA110B cA111 cA112 cA113 cA114 cA115 cA115A cA116 cA117 cA118 cA119 cA120 cA121
    cA122 cA123 cA124 cA125 cA125A cA126 cA127 cA128 cA129 cA130 cA131 cA132 cA133 cA134 cA135
    cA135A cA136 cA137 cA138 cA139 cA140 cA141 cA142 cA143 cA144 cA145 cA146 cA147 cA148 cA149 cA150
    cA151 cA152 cA153 cA154 cA155 cA156 cA157 cA158 cA159 cA160 cA161 cA162 cA163 cA164 cA165 cA166
    cA167 cA168 cA169 cA170 cA171 cA172 cA173 cA174 cA175 cA176 cA177 cA178 cA179 cA180 cA181 cA182
    cA183 cA184 cA185 cA186 cA187 cA188 cA189 cA190 cA191 cA192 cA193 cA194 cA195 cA196 cA197 cA198
    cA199 cA200 cA201 cA202 cA202A cA202B cA203 cA204 cA205 cA206 cA207 cA207A cA208 cA209 cA209A
    cA210 cA211 cA212 cA213 cA214 cA215 cA215A cA216 cA216A cA217 cA218 cA219 cA220 cA221 cA222
    cA223 cA224 cA225 cA226 cA227 cA227A cA228 cA229 cA230 cA231 cA232 cA233 cA234 cA235 cA236 cA237
    cA238 cA239 cA240 cA241 cA242 cA243 cA244 cA245 cA246 cA247 cA248 cA249 cA250 cA251 cA252 cA253
    cA254 cA255 cA256 cA257 cA258 cA259 cA260 cA261 cA262 cA263 cA264 cA265 cA266 cA267 cA267A cA268
    cA269 cA270 cA271 cA272 cA273 cA274 cA275 cA276 cA277 cA278 cA279 cA280 cA281 cA282 cA283 cA284
    cA285 cA286 cA287 cA288 cA289 cA289A cA290 cA291 cA292 cA293 cA294 cA294A cA295 cA296 cA297
    cA298 cA299 cA299A cA300 cA301 cA302 cA303 cA304 cA305 cA306 cA307 cA308 cA309 cA309A cA310
    cA311 cA312 cA313 cA314 cA315 cA316 cA317 cA318 cA319 cA320 cA321 cA322 cA323 cA324 cA325 cA326
    cA327 cA328 cA329 cA329A cA330 cA331 cA332A cA332B cA332C cA333 cA334 cA335 cA336 cA336A cA336B
    cA336C cA337 cA338 cA339 cA340 cA341 cA342 cA343 cA344 cA345 cA346 cA347 cA348 cA349 cA350 cA351
    cA352 cA353 cA354 cA355 cA356 cA357 cA358 cA359 cA359A cA360 cA361 cA362 cA363 cA364 cA364A
    cA365 cA366 cA367 cA368 cA368A cA369 cA370 cA371 cA371A cA372 cA373 cA374 cA375 cA376 cA377
    cA378 cA379 cA380 cA381 cA381A cA382 cA383_RA_OR_RI cA383A cA384 cA385 cA386 cA386A cA387 cA388
    cA389 cA390 cA391 cA392 cA393_EIGHT cA394 cA395 cA396 cA397 cA398 cA399 cA400 cA401 cA402 cA403
    cA404 cA405 cA406 cA407 cA408 cA409 cA410_BEGIN_LOGOGRAM_MARK cA410A_END_c cA411 cA412 cA413
    cA414 cA415 cA416 cA417 cA418 cA419 cA420 cA421 cA422 cA423 cA424 cA425 cA426 cA427 cA428 cA429
    cA430 cA431 cA432 cA433 cA434 cA435 cA436 cA437 cA438 cA439 cA440 cA441 cA442 cA443 cA444 cA445
    cA446 cA447 cA448 cA449 cA450 cA450A cA451 cA452 cA453 cA454 cA455 cA456 cA457 cA457A cA458
    cA459 cA460 cA461 cA462 cA463 cA464 cA465 cA466 cA467 cA468 cA469 cA470 cA471 cA472 cA473 cA474
    cA475 cA476 cA477 cA478 cA479 cA480 cA481 cA482 cA483 cA484 cA485 cA486 cA487 cA488 cA489 cA490
    cA491 cA492 cA493 cA494 cA495 cA496 cA497 cA501 cA502 cA503 cA504 cA505 cA506 cA507 cA508 cA509
    cA510 cA511 cA512 cA513 cA514 cA515 cA516 cA517 cA518 cA519 cA520 cA521 cA522 cA523 cA524 cA525
    cA526 cA527 cA528 cA529 cA530 16800 aBAMUM_LETTER_PHASE-A_NGKUE_MFON eGBIEE_FON
    ePON_MFON_PIPAEMGBIEE gPIPAEMBA eNAA_MFON eSHUENSHUET eTITA_MFON eNZA_b eSHINDA_PA_NJI
    ePON_PA_NJI_PIPAEMGBIEE hPIPAEMBA eMAEMBGBIEE eTU_MAEMBA eNGANGU eMAEMVEUX eMANSUAE eMVEUAENGAM
    eSEUNYAM eNTOQPEN eKEUKEUTNDA eNKINDI eSUU eNGKUENZEUM eLAPAQ eLET_KUT eNTAP_MFAA eMAEKEUP
    ePASHAE eGHEUAERAE ePAMSHAE eMON_NGGEUAET eNZUN_MEUT eU_YUQ_NAE eGHEUAEGHEUAE eNTAP_NTAA eSISA
    eMGBASA eMEUNJOMNDEUQ eMOOMPUQ eKAFA ePA_LEERAEWA eNDA_b ePET eMAEMKPEN eNIKA ePUP eTUAEP eLUAEP
    eSONJAM eTEUTEUWEN eMAENYI eKET eNDAANGGEUAET eKUOQ eMOOMEUT eSHUM eLOMMAE eFIRI eROM eKPOQ eSOQ
    eMAP_PIEET eSHIRAE eNTAP eSHOQ_NSHUT_YUM eNYIT_MONGKEUAEQ ePAARAE eNKAARAE eUNKNOWN eNGGEN
    eMAESI eNJAM eMBANYI eNYET eTEUAEN eSOT ePAAM eNSHIEE eMAEM eNYI eKAQ eNSHA eVEE eLU eNEN eNAQ
    eMBAQ dB_NSHUET eTU_MAEMGBIEE eSIEE eSET_TU eLOM_NTEUM eMBA_MAELEE eKIEEM eYEURAE eMBAARAE eKAM
    ePEESHI eYAFU_LEERAEWA eLAM_NSHUT_NYAM eNTIEE_SHEUOQ eNDU_NJAA eGHEUGHEUAEM ePIT eTU_NSIEE
    eSHET_NJAQ eSHEUAEQTU eMFON_TEUAEQ eMBIT_MBAAKET eNYI_NTEUM eKEUPUQ eGHEUGHEN eKEUYEUX eLAANAE
    ePARUM eVEUM eNGKINDI_MVOP eNGGEU_MBU eWUAET eSAKEUAE eTAAM eMEUQ eNGGUOQ eNGGUOQ_LARGE eMFIYAQ
    eSUE eMBEURI eMONTIEEN eNYAEMAE ePUNGAAM eMEUT_NGGEET eFEUX eMBUOQ eFEE eKEUAEM eMA_NJEUAENA
    fNJUQA eLET eNGGAAM eNSEN eMA eKIQ eNGOM dC_NGKUE_MAEMBA eNZA eYUM eWANGKUOQ eNGGEN eNDEUAEREE
    eNGKAQ eGHARAE eMBEEKEET eGBAYI eNYIR_MKPARAQ_MEUN eNTU_MBIT eMBEUM ePIRIEEN eNDOMBU
    eMBAA_CABBAGE-TREE eKEUSHEUAEP eGHAP eKEUKAQ eYU_MUOMAE eNZEUM eMBUE eNSEUAEN eMBIT eYEUQ
    eKPARAQ eKAA eSEUX eNDIDA eTAASHAE eNJUEQ eTITA_YUE eSUAET eNGGUAEN_NYAM eVEUX eNANSANAQ
    eMA_KEUAERI eNTAA eNGGUON eLAP eMBIRIEEN eMGBASAQ eNTEUNGBA eTEUTEUX eNGGUM eFUE eNDEUT eNSA
    eNSHAQ eBUNG eVEUAEPEN eMBERAE eRU eNJAEM eLAM eTITUAEP eNSUOT_NGOM eNJEEEE eKET eNGGU eMAESI
    eMBUAEM eLU eKUT eNJAM eNGOM eWUP eNGGUEET eNSOM eNTEN eKUOP_NKAARAE eNSUN eNDAM eMA_NSIEE eYAA
    eNDAP eSHUEQ eSETFON eMBI eMAEMBA eMBANYI eKEUSEUX eMBEUX eKEUM eMBAA_PICKET eYUWOQ eNJEUX eMIEE
    eMUAE eSHIQ eKEN_LAW fFATIGUE eNGAQ eNAQ eLIQ ePIN ePEN eTET dD_MBUO eWAP eNJI eMFON eNJIEE
    eLIEE eNJEUT eNSHEE eNGGAAMAE eNYAM eWUAEN eNGKUN eSHEE eNGKAP eKEUAETMEUN eTEUT eSHEUAE eNJAP
    eSUE eKET eYAEMMAE eKUOM eSAP eMFEUT eNDEUX eMALEERI eMEUT eSEUAEQ eYEN eNJEUAEM eKEUOT_MBUAE
    eNGKEURI eTU eGHAA eNGKYEE eFEUFEUAET eNDEE eMGBOFUM eLEUAEP eNDON eMONI eMGBEUN ePUUT eMGBIEE
    eMFO eLUM eNSIEEP eMBAA eKWAET eNYET eTEUAEN eSOT eYUWOQ eKEUM eRAEM eTEEEE eNGKEUAEQ eMFEUAE
    eNSIEET eKEUP ePIP ePEUTAE eNYUE eLET eNGGAAM eMFIEE eNGGWAEN eYUOM ePAP eYUOP eNDAM eNTEUM
    eSUAE eKUN eNGGEUX eNGKIEE eTUOT eMEUN eKUQ eNSUM eTEUN eMAENJET eNGGAP eLEUM eNGGUOM eNSHUT
    eNJUEQ eGHEUAE eKU eREN_OLD eTAE eTOQ eNYI eRII eLEEEE eMEEEE eM eSUU eMU eSHII eSHEUX eKYEE eNU
    eSHU eNTEE ePEE eNI eSHOQ ePUQ eMVOP eLOQ eREN_MUCH eTI eNTUU eMBAA_SEVEN eSAQ eFAA dE_NDAP
    eTOON eMBEUM eLAP eVOM eLOON ePAA eSOM eRAQ eNSHUOP eNDUN ePUAE eTAM eNGKA eKPEUX eWUO eSEE
    eNGGEUAET ePAAM eTOO eKUOP eLOM eNSHIEE eNGOP eMAEM eNGKEUX eNGOQ eNSHUE eRIMGBA eNJEUX ePEEM
    eSAA eNGGURAE eMGBA eGHEUX eNGKEUAEM eNJAEMLI eMAP eLOOT eNGGEEEE eNDIQ eTAEN_NTEUM eSET ePUM
    eNDAA_SOFTNESS eNGGUAESHAE_NYAM eYIEE eGHEUN eTUAE eYEUAE ePO eTUMAE eKEUAE eSUAEN eTEUAEQ
    eVEUAE eWEUX eLAAM ePU eTAAQ eGHAAMAE eNGEUREUT eSHEUAEQ eMGBEN eMBEE eNZAQ eNKOM eGBET eTUM
    eKUET eYAP eNYI_CLEAVER eYIT eMFEUQ eNDIAQ ePIEEQ eYUEQ eLEUAEM eFUE eGBEUX eNGKUP eKET eMAE
    eNGKAAMI eGHET eFA eNTUM ePEUT eYEUM eNGGEUAE eNYI_BETWEEN eNZUQ ePOON eMIEE eFUET eNAE eMUAE
    eGHEUAE eFU_I eMVI ePUAQ eNGKUM eKUT ePIET eNTAP eYEUAET eNGGUP ePA_PEOPLE eFU_CALL eFOM eNJEE
    eA eTOQ eO eI eLAQ ePA_PLURAL eTAA eTAQ eNDAA_MY_HOUSE eSHIQ eYEUX eNGUAE eYUAEN eYOQ_SWIMMING
    fCOVER eYUQ eYUN eKEUX ePEUX eNJEE_EPOCH ePUE eWUE eFEE eVEE eLU eMI eREUX eRAE eNGUAET eNGA
    eSHO eSHOQ eFU_REMEDY eNA ePI eLOQ eKO eMEN eMA eMAQ eTEU eKI eMON eTEN eFAQ eGHOM dF_KA eU eKU
    eEE eREE eTAE eNYI eLA eRII eRIEE eMEEEE eTAA eNDAA eNJAEM eM eSUU eSHII eSI eSEUX eKYEE eKET
    eNUAE eNU eNJUAE eYOQ eSHU eYA eNSHA ePEUX eNTEE eWUE ePEE eRU eNI eREUX eKEN eNGKWAEN eNGGA
    eSHO ePUAE eFOM eWA eLI eLOQ eKO eMBEN eREN eMA eMO eMBAA eTET eKPA eSAMBA eVUEQ 16A40
    aMRO_LETTER_TA cNGI cYO cMIM cBA cDA cA cPHI cKHAI cHAO cDAI cCHU cKEAAE cOL cMAEM cNIN cPA cOO
    cO cRO cSHI cTHEA cEA cWA cE cKO cLAN cLA cHAI cRI cTEK 16A60 bDIGIT_ZERO cONE cTWO cTHREE cFOUR
    cFIVE cSIX cSEVEN cEIGHT cNINE 16A6E bDANDA bDOUBLE_b aTANGSA_LETTER_OZ cOC cOQ cOX cAZ cAC cAQ
    cAX cVZ cVC cVQ cVX cEZ cEC cEQ cEX cIZ cIC cIQ cIX cUZ cUC cUQ cUX cAWZ cAWC cAWQ cAWX cUIZ
    cUIC cUIQ cUIX cFINAL_NG cLONG_UEX cSHORT_UEZ dAWX cUEC cUEZ cUEQ cUEX cUIUZ cUIUC cUIUQ cUIUX
    cMZ cMC cMQ cMX cKA cKHA cGA cNGA cSA cYA cWA cPA cNYA cPHA cBA cMA cNA cHA cLA cHTA cTA cDA cRA
    cNHA cSHA cCA cTSA cGHA cHTTA cTHA cXA cFA cDHA cCHA cZA 16AC0 bDIGIT_ZERO cONE cTWO cTHREE
    cFOUR cFIVE cSIX cSEVEN cEIGHT cNINE 16AD0 aBASSA_VAH_LETTER_ENNI dKA dSE dFA dMBE dYIE dGAH
    dDHII dKPAH dJO dHWAH dWA dZO dGBU dDO dCE dUWU dTO dBA dVU dYEIN dPA dWADDA dA dO dOO dU dEE dE
    dI 16AF0 cCOMBINING_HIGH_TONE dLOW_b dMID_b dLOW-c dHIGH-LOW_b cFULL_STOP 16B00
    aPAHAWH_HMONG_VOWEL_KEEB dKEEV dKIB dKIV dKAUB dKAUV dKUB dKUV dKEB dKEV dKAIB dKAIV dKOOB dKOOV
    dKAWB dKAWV dKUAB dKUAV dKOB dKOV dKIAB dKIAV dKAB dKAV dKWB dKWV dKAAB dKAAV cCONSONANT_VAU
    dNTSAU dLAU dHAU dNLAU dRAU dNKAU dQHAU dYAU dHLAU dMAU dCHAU dNCHAU dHNAU dPLHAU dNTHAU dNAU
    dAU dXAU dCAU cMARK_CIM_TUB eSO eKES eKHAV eSUAM eHOM eTAUM cSIGN_VOS_THOM eTSHAB_CEEB
    dCIM_CHEEM dVOS_THIAB eFEEM dXYEEM_NTXIV eRHO eTOV eFAIB dVOS_SEEV dMEEJ_SUAB dVOS_NRUA dIB_YAM
    dXAUS dCIM_TSOV_ROG 16B50 cDIGIT_ZERO dONE dTWO dTHREE dFOUR dFIVE dSIX dSEVEN dEIGHT dNINE
    16B5B cNUMBER_TENS dHUNDREDS dTEN_THOUSANDS dMILLIONS dHUNDRED_b dTEN_BILLIONS dTRILLIONS 16B63
    cSIGN_VOS_LUB dXYOO dHLI dTHIRD-STAGE_b dZWJ_THAJ dHNUB dNQIG dXIAB dNTUJ dAV dTXHEEJ_CEEV
    dMEEJ_TSEEB dTAU dLOS dMUS dCIM_HAIS_LUS_NTOG_NTOG eCUAM_TSHOOJ eTXWV eTXWV_CHWV ePUB_DAWB
    eNRES_TOS 16B7D cCLAN_SIGN_TSHEEJ eYEEG eLIS eLAUJ eXYOOJ eKOO eHAWJ eMUAS eTHOJ eTSAB ePHAB
    eKHAB eHAM eVAJ eFAJ eYAJ eTSWB eKWM eVWJ 16E40 aMEDEFAIDRIN_CAPITAL_LETTER_M dS dV dW dATIU dZ
    dKP dP dT dG dF dI dK dA dJ dE dB dC dU dYU dL dQ dHP dNY dX dD dOE dN dR dO dAI dY
    bSMALL_LETTER_M dS dV dW dATIU dZ dKP dP dT dG dF dI dK dA dJ dE dB dC dU dYU dL dQ dHP dNY dX
    dD dOE dN dR dO dAI dY bDIGIT_ZERO cONE cTWO cTHREE cFOUR cFIVE cSIX cSEVEN cEIGHT cNINE
    bNUMBER_TEN cELEVEN cTWELVE cTHIRTEEN cFOURTEEN cFIFTEEN cSIXTEEN cSEVENTEEN cEIGHTEEN cNINETEEN
    bDIGIT_ONE_ALTERNATE_FORM cTWO_c cTHREE_c bCOMMA bFULL_STOP bSYMBOL_AIVA bEXCLAMATION_OH 16F00
    aMIAO_LETTER_PA cBA cYI_PA cPLA cMA cMHA cARCHAIC_MA cFA cVA cVFA cTA cDA cYI_TTA dTA cTTA cDDA
    cNA cNHA cYI_NNA cARCHAIC_NA cNNA cNNHA cLA cLYA cLHA cLHYA cTLHA cDLHA cTLHYA cDLHYA cKA cGA
    cYI_KA cQA cQGA cNGA cNGHA cARCHAIC_NGA cHA cXA cGHA cGHHA cTSSA cDZZA cNYA cNYHA cTSHA cDZHA
    cYI_TSHA dDZHA cREFORMED_TSHA cSHA cSSA cZHA cZSHA cTSA cDZA cYI_TSA cSA cZA cZSA cZZA cZZSA
    cARCHAIC_ZZA cZZYA cZZSYA cWA cAH cHHA cBRI cSYI cDZYI cTE cTSE cRTE 16F4F
    bSIGN_CONSONANT_MODIFIER_BAR bLETTER_NASALIZATION bSIGN_ASPIRATION cREFORMED_VOICING dASPIRATION
    bVOWEL_SIGN_A dAA dAHH dAN dANG dO dOO dWO dW dE dEN dENG dOEY dI dIA dIAN dIANG dIO dIE dII dIU
    dING dU dUA dUAN dUANG dUU dUEI dUNG dY dYI dAE dAEE dERR dROUNDED_b dER dROUNDED_b dAI dEI dAU
    dOU dN dNG dUOG dYUI dOG dOER dVW dIG dEA dIONG dUI 16F8F bTONE_RIGHT cTOP_b cABOVE cBELOW
    bLETTER_TONE-2 d3 d4 d5 d6 d7 d8 cREFORMED_TONE-1 e2 e4 e5 e6 e8 16FE0 aTANGUT_ITERATION_MARK
    aNUSHU_c aOLD_CHINESE_HOOK_b cITERATION_b aKHITAN_SMALL_SCRIPT_FILLER 16FF0
    aVIETNAMESE_ALTERNATE_READING_MARK_CA eNHAY 18800 aTANGUT_COMPONENT-001 c002 c003 c004 c005 c006
    c007 c008 c009 c010 c011 c012 c013 c014 c015 c016 c017 c018 c019 c020 c021 c022 c023 c024 c025
    c026 c027 c028 c029 c030 c031 c032 c033 c034 c035 c036 c037 c038 c039 c040 c041 c042 c043 c044
    c045 c046 c047 c048 c049 c050 c051 c052 c053 c054 c055 c056 c057 c058 c059 c060 c061 c062 c063
    c064 c065 c066 c067 c068 c069 c070 c071 c072 c073 c074 c075 c076 c077 c078 c079 c080 c081 c082
    c083 c084 c085 c086 c087 c088 c089 c090 c091 c092 c093 c094 c095 c096 c097 c098 c099 c100 c101
    c102 c103 c104 c105 c106 c107 c108 c109 c110 c111 c112 c113 c114 c115 c116 c117 c118 c119 c120
    c121 c122 c123 c124 c125 c126 c127 c128 c129 c130 c131 c132 c133 c134 c135 c136 c137 c138 c139
    c140 c141 c142 c143 c144 c145 c146 c147 c148 c149 c150 c151 c152 c153 c154 c155 c156 c157 c158
    c159 c160 c161 c162 c163 c164 c165 c166 c167 c168 c169 c170 c171 c172 c173 c174 c175 c176 c177
    c178 c179 c180 c181 c182 c183 c184 c185 c186 c187 c188 c189 c190 c191 c192 c193 c194 c195 c196
    c197 c198 c199 c200 c201 c202 c203 c204 c205 c206 c207 c208 c209 c210 c211 c212 c213 c214 c215
    c216 c217 c218 c219 c220 c221 c222 c223 c224 c225 c226 c227 c228 c229 c230 c231 c232 c233 c234
    c235 c236 c237 c238 c239 c240 c241 c242 c243 c244 c245 c246 c247 c248 c249 c250 c251 c252 c253
    c254 c255 c256 c257 c258 c259 c260 c261 c262 c263 c264 c265 c266 c267 c268 c269 c270 c271 c272
    c273 c274 c275 c276 c277 c278 c279 c280 c281 c282 c283 c284 c285 c286 c287 c288 c289 c290 c291
    c292 c293 c294 c295 c296 c297 c298 c299 c300 c301 c302 c303 c304 c305 c306 c307 c308 c309 c310
    c311 c312 c313 c314 c315 c316 c317 c318 c319 c320 c321 c322 c323 c324 c325 c326 c327 c328 c329
    c330 c331 c332 c333 c334 c335 c336 c337 c338 c339 c340 c341 c342 c343 c344 c345 c346 c347 c348
    c349 c350 c351 c352 c353 c354 c355 c356 c357 c358 c359 c360 c361 c362 c363 c364 c365 c366 c367
    c368 c369 c370 c371 c372 c373 c374 c375 c376 c377 c378 c379 c380 c381 c382 c383 c384 c385 c386
    c387 c388 c389 c390 c391 c392 c393 c394 c395 c396 c397 c398 c399 c400 c401 c402 c403 c404 c405
    c406 c407 c408 c409 c410 c411 c412 c413 c414 c415 c416 c417 c418 c419 c420 c421 c422 c423 c424
    c425 c426 c427 c428 c429 c430 c431 c432 c433 c434 c435 c436 c437 c438 c439 c440 c441 c442 c443
    c444 c445 c446 c447 c448 c449 c450 c451 c452 c453 c454 c455 c456 c457 c458 c459 c460 c461 c462
    c463 c464 c465 c466 c467 c468 c469 c470 c471 c472 c473 c474 c475 c476 c477 c478 c479 c480 c481
    c482 c483 c484 c485 c486 c487 c488 c489 c490 c491 c492 c493 c494 c495 c496 c497 c498 c499 c500
    c501 c502 c503 c504 c505 c506 c507 c508 c509 c510 c511 c512 c513 c514 c515 c516 c517 c518 c519
    c520 c521 c522 c523 c524 c525 c526 c527 c528 c529 c530 c531 c532 c533 c534 c535 c536 c537 c538
    c539 c540 c541 c542 c543 c544 c545 c546 c547 c548 c549 c550 c551 c552 c553 c554 c555 c556 c557
    c558 c559 c560 c561 c562 c563 c564 c565 c566 c567 c568 c569 c570 c571 c572 c573 c574 c575 c576
    c577 c578 c579 c580 c581 c582 c583 c584 c585 c586 c587 c588 c589 c590 c591 c592 c593 c594 c595
    c596 c597 c598 c599 c600 c601 c602 c603 c604 c605 c606 c607 c608 c609 c610 c611 c612 c613 c614
    c615 c616 c617 c618 c619 c620 c621 c622 c623 c624 c625 c626 c627 c628 c629 c630 c631 c632 c633
    c634 c635 c636 c637 c638 c639 c640 c641 c642 c643 c644 c645 c646 c647 c648 c649 c650 c651 c652
    c653 c654 c655 c656 c657 c658 c659 c660 c661 c662 c663 c664 c665 c666 c667 c668 c669 c670 c671
    c672 c673 c674 c675 c676 c677 c678 c679 c680 c681 c682 c683 c684 c685 c686 c687 c688 c689 c690
    c691 c692 c693 c694 c695 c696 c697 c698 c699 c700 c701 c702 c703 c704 c705 c706 c707 c708 c709
    c710 c711 c712 c713 c714 c715 c716 c717 c718 c719 c720 c721 c722 c723 c724 c725 c726 c727 c728
    c729 c730 c731 c732 c733 c734 c735 c736 c737 c738 c739 c740 c741 c742 c743 c744 c745 c746 c747
    c748 c749 c750 c751 c752 c753 c754 c755 c756 c757 c758 c759 c760 c761 c762 c763 c764 c765 c766
    c767 c768 1AFF0 aKATAKANA_LETTER_MINNAN_TONE-2 e3 e4 e5 1AFF5 e7 e8 dNASALIZED_TONE-1 f2 f3 f4
    f5 1AFFD f7 f8 1B000 cARCHAIC_E aHIRAGANA_LETTER_ARCHAIC_YE aHENTAIGANA_LETTER_A-1 d2 d3 dWO
    cI-1 d2 d3 d4 cU-1 d2 d3 d4 d5 cE-2 d3 d4 d5 d6 cO-1 d2 d3 cKA-1 d2 d3 d4 d5 d6 d7 d8 d9 d10 d11
    dKE cKI-1 d2 d3 d4 d5 d6 d7 d8 cKU-1 d2 d3 d4 d5 d6 d7 cKE-1 d2 d3 d4 d5 d6 cKO-1 d2 d3 dKI
    cSA-1 d2 d3 d4 d5 d6 d7 d8 cSI-1 d2 d3 d4 d5 d6 cSU-1 d2 d3 d4 d5 d6 d7 d8 cSE-1 d2 d3 d4 d5
    cSO-1 d2 d3 d4 d5 d6 d7 cTA-1 d2 d3 d4 cTI-1 d2 d3 d4 d5 d6 d7 cTU-1 d2 d3 d4 dTO cTE-1 d2 d3 d4
    d5 d6 d7 d8 d9 cTO-1 d2 d3 d4 d5 d6 dRA cNA-1 d2 d3 d4 d5 d6 d7 d8 d9 cNI-1 d2 d3 d4 d5 d6 d7
    dTE cNU-1 d2 d3 cNE-1 d2 d3 d4 d5 d6 dKO cNO-1 d2 d3 d4 d5 cHA-1 d2 d3 d4 d5 d6 d7 d8 d9 d10 d11
    cHI-1 d2 d3 d4 d5 d6 d7 cHU-1 d2 d3 cHE-1 d2 d3 d4 d5 d6 d7 cHO-1 d2 d3 d4 d5 d6 d7 d8 cMA-1 d2
    d3 d4 d5 d6 d7 cMI-1 d2 d3 d4 d5 d6 d7 cMU-1 d2 d3 d4 cME-1 d2 dMA cMO-1 d2 d3 d4 d5 d6 cYA-1 d2
    d3 d4 d5 dYO cYU-1 d2 d3 d4 cYO-1 d2 d3 d4 d5 d6 cRA-1 d2 d3 d4 cRI-1 d2 d3 d4 d5 d6 d7 cRU-1 d2
    d3 d4 d5 d6 cRE-1 d2 d3 d4 cRO-1 d2 d3 d4 d5 d6 cWA-1 d2 d3 d4 d5 cWI-1 d2 d3 d4 d5 cWE-1 d2 d3
    d4 cWO-1 d2 d3 d4 d5 d6 d7 cN-MU-MO-1 f2 aHIRAGANA_LETTER_ARCHAIC_WU aKATAKANA_LETTER_ARCHAIC_YI
    dYE dWU 1B150 aHIRAGANA_LETTER_SMALL_WI dWE dWO 1B164 aKATAKANA_LETTER_SMALL_WI dWE dWO dN 1BC00
    aDUPLOYAN_LETTER_H cX cP cT cF cK cL cB cD cV cG cR cP_N cD_S cF_N cK_M cR_S cTH cSLOAN_DH cb
    cKK cSLOAN_J cHL cLH cRH cM cN cJ cS cM_N cN_M cJ_b cS_J cM_WITH_DOT cN_c cJ_c
    eDOTS_INSIDE_AND_ABOVE cS_WITH_DOT eDOT_BELOW cM_S cN_b cJ_b cS_b cM_N_b cN_M_b cJ_c cS_J_b
    cJ_S_WITH_DOT dN dN_S cS_T dT_R dP dP_R cT_S dR_b cW cWH cW_R cS_N dM cK_R_S cG_c cS_K dK_R cA
    cSLOAN_OW cOA cO cAOU cI cE cIE cSHORT_I cUI cEE cSLOAN_EH cROMANIAN_I cSLOAN_EE cLONG_I cYE cU
    cEU cXW cU_N cLONG_U cROMANIAN_b cUH cSLOAN_U cOOH cOW cOU cWA cWO cWI cWEI cWOW cNASAL_U dO dI
    dA cPERNIN_AN dAM cSLOAN_EN dAN dON cVOCALIC_M 1BC70 bAFFIX_LEFT_HORIZONTAL_SECANT cMID_c
    cRIGHT_c cLOW_VERTICAL_b cMID_c cHIGH_c cATTACHED_b dLEFT-TO-RIGHT_b dTANGENT dTAIL dE_HOOK dI_b
    dTANGENT_b 1BC80 cHIGH_ACUTE dTIGHT_b dGRAVE dLONG_b dDOT dCIRCLE dLINE dWAVE dVERTICAL 1BC90
    cLOW_ACUTE dTIGHT_b dGRAVE dLONG_b dDOT dCIRCLE dLINE dWAVE dVERTICAL dARROW 1BC9C
    bSIGN_O_WITH_CROSS bTHICK_LETTER_SELECTOR bDOUBLE_MARK bPUNCTUATION_CHINOOK_FULL_STOP
    aSHORTHAND_FORMAT_LETTER_OVERLAP cCONTINUING_b cDOWN_STEP cUP_b 1CF00
    aZNAMENNY_COMBINING_MARK_GORAZDO_NIZKO_S_KRYZHEM_ON_LEFT df dTSATA_c dGORAZDO_NIZKO_c dd
    dSREDNE_c dMALO_POVYSHE_c dd dVYSOKO_c dMALO_POVYSHE_S_KHOKHLOM_c df dVYSOKO_e
    dGORAZDO_NIZKO_S_KRYZHEM_ON_RIGHT df dTSATA_c dGORAZDO_NIZKO_c dd dSREDNE_c dMALO_POVYSHE_c dd
    dVYSOKO_c dMALO_POVYSHE_S_KHOKHLOM_c df dVYSOKO_e dTSATA_S_KRYZHEM dMALO_POVYSHE_c
    dSTRANNO_MALO_POVYSHE dPOVYSHE_S_KRYZHEM eSTRANNO dVYSOKO_S_KRYZHEM dMALO_POVYSHE_STRANNO
    dGORAZDO_VYSOKO dZELO dON dRAVNO dTIKHAYA dBORZAYA dUDARKA dPODVERTKA dLOMKA dKUPNAYA dKACHKA
    dZEVOK dSKOBA dRAZSEKA dKRYZH_ON_LEFT 1CF30 cTONAL_RANGE_MARK_MRACHNO fSVETLO fTRESVETLO
    cMARK_ZADERZHKA dDEMESTVENNY_b dOTSECHKA dPODCHASHIE dPODCHASHIE_WITH_VERTICAL_STROKE dCHASHKA
    dCHASHKA_POLNAYA dOBLACHKO dSOROCHYA_NOZHKA dTOCHKA dDVOETOCHIE cATTACHING_VERTICAL_OMET
    cMARK_CURVED_b dKRYZH cLOWER_TONAL_RANGE_INDICATOR bPRIZNAK_MODIFIER_LEVEL-2 e3 dDIRECTION_FLIP
    dKRYZH dROG 1CF50 bNEUME_KRYUK cKRYUK_TIKHY cPARAKLIT cDVA_V_CHELNU cKLYUCH cZANOZHEK cSTOPITSA
    cSTOPITSA_S_OCHKOM cPEREVODKA cPEREVODKA_NEPOSTOYANNAYA cSTOPITSA_WITH_SOROCHYA_NOZHKA
    cCHELYUSTKA cPALKA cZAPYATAYA cGOLUBCHIK_BORZY dTIKHY dMRACHNY dSVETLY dTRESVETLY
    cVRAKHIYA_PROSTAYA dMRACHNAYA dSVETLAYA dTRESVETLAYA dKLYUCHEVAYA_PROSTAYA eMRACHNAYA eSVETLAYA
    eTRESVETLAYA cDOUBLE_ZAPYATAYA cREVERSED_CHELYUSTKA cDERBITSA cKHAMILO cCHASHKA cPODCHASHIE
    cSKAMEYTSA_MRACHNAYA dSVETLAYA dTRESVETLAYA dTIKHAYA cDEMESTVENNY_KLYUCH
    cSKAMEYTSA_KLYUCHEVAYA_SVETLAYA dKLYUCHENEPOSTOYANNAYA dKLYUCHEVAYA_TIKHAYA
    dDVOECHELNAYA_PROSTAYA eSVETLAYA eNEPOSTOYANNAYA eKLYUCHEVAYA cSLOZHITIE cSLOZHITIE_S_ZAPYATOY
    dZAKRYTOE dS_KRYZHEM cKRYZH cROG cFITA cKOBYLA cZMEYTSA cSTATYA cSTATYA_S_ZAPYATOY eKRYZHEM
    eZAPYATOY_I_b eKRYZHEM_I_ZAPYATOY dZAKRYTAYA dZAKRYTAYA_S_ZAPYATOY dS_ROGOM eDVUMYA_ZAPYATYMI
    eZAPYATOY_I_PODCHASHIEM cPOLKULIZMY cSTATYA_NEPOSTOYANNAYA cSTRELA_PROSTAYA dMRACHNOTIKHAYA
    dKRYZHEVAYA dPOLUPOVODNAYA dPOVODNAYA dNEPOSTOYANNAYA dKLYUCHEPOVODNAYA dKLYUCHENEPOSTOYANNAYA
    dTIKHAYA_PUTNAYA dDVOECHELNAYA dDVOECHELNOKRYZHEVAYA dDVOECHELNOPOVODNAYA
    dDVOECHELNAYA_KLYUCHEVAYA dDVOECHELNOPOVODNAYA_b dGROMNAYA_WITH_SINGLE_ZAPYATAYA
    dGROMOPOVODNAYA_d dGROMNAYA dGROMOPOVODNAYA dGROMOPOVODNAYA_WITH_DOUBLE_ZAPYATAYA
    dGROMOKRYZHEVAYA dGROMOKRYZHEVAYA_POVODNAYA cMECHIK cMECHIK_POVODNY dKLYUCHEVOY dKLYUCHEPOVODNY
    dKLYUCHENEPOSTOYANNY cSTRELA_TRYASOGLASNAYA dTRYASOPOVODNAYA dTRYASOSTRELNAYA cOSOKA
    cOSOKA_SVETLAYA dTRESVETLAYA dKRYUKOVAYA_SVETLAYA dKLYUCHEVAYA_b eNEPOSTOYANNAYA
    cSTRELA_KRYUKOVAYA dKRYUKOVAYA_POVODNAYA eGROMNAYA_WITH_SINGLE_ZAPYATAYA eGROMOPOVODNAYA_d
    eGROMNAYA eGROMOPOVODNAYA eGROMOPOVODNAYA_WITH_DOUBLE_ZAPYATAYA eGROMOKRYZHEVAYA
    eGROMOKRYZHEVAYA_POVODNAYA eTRYASKA cKUFISMA cOBLAKO cDUDA cNEMKA cPAUK"

end SourceConventions.Text.CharName
