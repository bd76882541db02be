import SourceSurvey.Grammar.Basic

/-!
The grammar of YAML. All tokens come from the scanner, most of them in a form for each place where they
can stand: behind another token on its line, deeper than the block, or aligned with it. A rule that
exists for several places is written once, with `$` for the place.
-/

namespace SourceSurvey.Languages.YamlGrammar

open Grammar

/-- Repeats a text for the first so many places. -/
def forPlaces (count : Nat) (text : String) : String :=
  String.join ((["behind", "deeper", "aligned"].take count).map fun place ↦ text.replace "$" place)

/-! ## Rules -/

/-- Documents. One that ends with a mark can be followed by any, the others only by one that begins with
a mark. -/
def documents : String := r#"
  stream = (_closed_documents | _open_documents)? _end_of_text;
  _closed_documents = @alias(_closed_document, document)
    | _closed_documents @alias(_closed_document, document)
    | _open_documents @alias(_marked_closed_document, document);
  _open_documents = @alias(_open_document, document)
    | _closed_documents @alias(_open_document, document)
    | _open_documents @alias(_marked_document, document);
  _closed_document = _open_document? @alias(_document_end, '...');
  _marked_closed_document = _marked_document @alias(_document_end, '...');
  _open_document = _directive+ _marked_document | _marked_document | _bare_content;
  _marked_document = @alias(_directives_end, '---') _marked_content?;
  _bare_content = @alias(_node_behind, flow_node) | @alias(_node_deeper, flow_node)
    | @alias(_block_behind, block_node) | @alias(_block_deeper, block_node);
  _marked_content = @alias(_node_behind, flow_node) | @alias(_node_deeper, flow_node)
    | @alias(_late_block_behind, block_node) | @alias(_block_deeper, block_node);
  _directive = yaml_directive | tag_directive | reserved_directive;
  yaml_directive = _yaml_sign @alias(_version, yaml_version);
  tag_directive = _tag_sign @alias(_handle, tag_handle) @alias(_tag_start, tag_prefix);
  reserved_directive = @alias(_other_sign, directive_name)
    @alias(_parameter, directive_parameter)*;
"#

/-- What stands in the parts of blocks. -/
def contents : String := r#"
  _nested = @alias(_node_behind, flow_node) | @alias(_node_deeper, flow_node)
    | @alias(_block_behind, block_node) | @alias(_block_deeper, block_node);
  _explicit_part = _nested | @alias(_block_aligned, block_node);
  _value = @alias(_node_behind, flow_node) | @alias(_node_deeper, flow_node)
    | @alias(_value_block_behind, block_node) | @alias(_value_block_deeper, block_node)
    | @alias(_block_aligned, block_node);
  _block_aligned = @alias(_sequence_aligned, block_sequence);
  _sequence_aligned = @alias(_item_aligned, block_sequence_item)+ _block_end;
  _value_block_behind = _late_block_behind | _tagged_sequence_behind;
  _value_block_deeper = _block_deeper | _tagged_sequence_deeper;
"#

/-- Blocks at a place. -/
def blocks : String := r#"
  _block_$ = _collection_$ | _late_block_$;
  _collection_$ = @alias(_sequence_$, block_sequence) | @alias(_mapping_$, block_mapping);
  _late_block_$ = @alias(_block_text_$, block_scalar)
    | _properties_$ (@alias(_block_text_behind, block_scalar)
      | @alias(_block_text_deeper, block_scalar) | _collection_deeper);
  _tagged_sequence_$ = _properties_$ @alias(_sequence_aligned, block_sequence);
  _sequence_$ = @alias(_item_$, block_sequence_item)
    @alias(_item_aligned, block_sequence_item)* _block_end;
  _mapping_$ = @alias(_pair_$, block_mapping_pair)
    @alias(_pair_aligned, block_mapping_pair)* _block_end;
  _block_text_$ = (@alias(_literal_$, '|') | @alias(_folded_$, '>')) _block_line* _block_end;
  _node_$ = @alias(_alias_$, alias) | _content_$
    | _properties_$ (_content_behind | _content_deeper)?;
  _content_$ = _plain_$ | _json_$;
  _plain_$ = @alias(_plain_line_$, plain_scalar) | @alias(_plain_lines_$, plain_scalar);
  _plain_lines_$ = @alias(_lines_$, string_scalar);
  _properties_$ = _short_properties_$ | _long_properties_$;
  _long_properties_$ = @alias(_tag_$, tag) @alias(_anchor_deeper, anchor)
    | @alias(_anchor_$, anchor) @alias(_tag_deeper, tag);
"#

/-- Members of blocks at a place. A key stands on one line. -/
def members : String := r#"
  _item_$ = @alias(_dash_$, '-') _nested?;
  _pair_$ = _explicit_pair_$ | @alias(_key_$, flow_node) @alias(_implicit_colon, ':') _value?;
  _explicit_pair_$ = @right(0, @alias(_query_$, '?') _explicit_part?
      (@alias(_colon_aligned, ':') _explicit_part?)?
    | @alias(_colon_$, ':') _explicit_part?);
  _key_$ = @alias(_alias_$, alias) | _key_content_$ | _short_properties_$ _key_content_behind?;
  _key_content_$ = @alias(_plain_line_$, plain_scalar) | _short_json_$;
  _plain_line_$ = @alias(_null_$, null_scalar) | @alias(_boolean_$, boolean_scalar)
    | @alias(_integer_$, integer_scalar) | @alias(_float_$, float_scalar)
    | @alias(_timestamp_$, timestamp_scalar) | @alias(_string_$, string_scalar);
  _short_properties_$ = @alias(_tag_$, tag) | @alias(_anchor_$, anchor)
    | @alias(_tag_$, tag) @alias(_anchor_behind, anchor)
    | @alias(_anchor_$, anchor) @alias(_tag_behind, tag);
  _anchor_$ = @alias(_ampersand_$, '&') @alias(_anchor_name, anchor_name);
  _alias_$ = @alias(_asterisk_$, '*') @alias(_alias_name, alias_name);
  _short_json_$ = @alias(_short_double_$, double_quote_scalar)
    | @alias(_short_single_$, single_quote_scalar)
    | @alias(_short_flow_sequence_$, flow_sequence)
    | @alias(_short_flow_mapping_$, flow_mapping);
  _short_double_$ = @alias(_double_start_$, '"') _double_parts_behind?
    @alias(_double_end_behind, '"');
  _short_single_$ = @alias(_single_start_$, '\'') _single_parts_behind?
    @alias(_single_end_behind, '\'');
  _short_flow_sequence_$ = @alias(_bracket_$, '[') _short_entries?
    @alias(_bracket_end_behind, ']');
  _short_flow_mapping_$ = @alias(_brace_$, '{') _short_pairs? @alias(_brace_end_behind, '}');
"#

/-- Flow nodes at a place. A quoted or bracketed one can be a key without a space behind its colon. -/
def flowNodes : String := r#"
  _json_$ = @alias(_short_double_$, double_quote_scalar)
    | @alias(_long_double_$, double_quote_scalar)
    | @alias(_short_single_$, single_quote_scalar)
    | @alias(_long_single_$, single_quote_scalar)
    | @alias(_flow_sequence_$, flow_sequence) | @alias(_flow_mapping_$, flow_mapping);
  _long_double_$ = @alias(_double_start_$, '"') _double_parts_behind?
    (_double_part_deeper _double_part* _double_end | @alias(_double_end_deeper, '"'));
  _long_single_$ = @alias(_single_start_$, '\'') _single_parts_behind?
    (_single_part_deeper _single_part* _single_end | @alias(_single_end_deeper, '\''));
  _double_parts_$ = _double_part_$+;
  _double_part_$ = _double_text_$ | @alias(_double_break_$, escape_sequence)
    | @alias(_double_escape_$, escape_sequence);
  _single_parts_$ = _single_part_$+;
  _single_part_$ = _single_text_$ | @alias(_single_escape_$, escape_sequence);
  _flow_sequence_$ = @alias(_bracket_$, '[') _entries? _bracket_end;
  _flow_mapping_$ = @alias(_brace_$, '{') _pairs? _brace_end;
  _json_node_$ = _json_$ | _properties_$ (_json_behind | _json_deeper);
  _flow_plain_node_$ = @alias(_alias_$, alias) | _flow_plain_$
    | _properties_$ (_flow_plain_behind | _flow_plain_deeper)?;
  _flow_plain_$ = @alias(_flow_plain_line_$, plain_scalar)
    | @alias(_flow_plain_lines_$, plain_scalar);
  _flow_plain_line_$ = @alias(_flow_null_$, null_scalar)
    | @alias(_flow_boolean_$, boolean_scalar) | @alias(_flow_integer_$, integer_scalar)
    | @alias(_flow_float_$, float_scalar) | @alias(_flow_timestamp_$, timestamp_scalar)
    | @alias(_flow_string_$, string_scalar);
  _flow_plain_lines_$ = @alias(_flow_lines_$, string_scalar);
  _flow_node_$ = @alias(_json_node_$, flow_node) | @alias(_flow_plain_node_$, flow_node);
  _short_json_node_$ = _short_json_$ | _short_properties_$ _short_json_behind;
  _short_plain_node_$ = @alias(_alias_$, alias) | @alias(_flow_plain_line_$, plain_scalar)
    | _short_properties_$ @alias(_flow_plain_line_behind, plain_scalar)?;
  _short_flow_node_$ =
    @alias(_short_json_node_$, flow_node) | @alias(_short_plain_node_$, flow_node);
  _flow_pair_$ = @alias(_json_node_$, flow_node) _adjacent_colon _flow_value?
    | @alias(_flow_plain_node_$, flow_node) _separate_colon _flow_value?
    | @alias(_separate_colon_$, ':') _flow_value?;
  _flow_entry_$ = @alias(_short_json_node_$, flow_node)
      @alias(_adjacent_colon_behind, ':') _flow_value?
    | @alias(_short_plain_node_$, flow_node) @alias(_separate_colon_behind, ':') _flow_value?
    | @alias(_separate_colon_$, ':') _flow_value?;
  _explicit_flow_pair_$ = @alias(_flow_query_$, '?') _explicit_flow_part?;
"#

/-- Members of flow collections. -/
def flowMembers : String := r#"
  _double_part = _double_part_behind | _double_part_deeper;
  _double_end = @alias(_double_end_behind, '"') | @alias(_double_end_deeper, '"');
  _single_part = _single_part_behind | _single_part_deeper;
  _single_end = @alias(_single_end_behind, '\'') | @alias(_single_end_deeper, '\'');
  _bracket_end = @alias(_bracket_end_behind, ']') | @alias(_bracket_end_deeper, ']')
    | @alias(_bracket_end_aligned, ']');
  _brace_end = @alias(_brace_end_behind, '}') | @alias(_brace_end_deeper, '}')
    | @alias(_brace_end_aligned, '}');
  _comma = @alias(_comma_behind, ',') | @alias(_comma_deeper, ',');
  _adjacent_colon = @alias(_adjacent_colon_behind, ':') | @alias(_adjacent_colon_deeper, ':');
  _separate_colon = @alias(_separate_colon_behind, ':') | @alias(_separate_colon_deeper, ':');
  _flow_value = _flow_node_behind | _flow_node_deeper;
  _entries = _entry (_comma _entry)* _comma?;
  _entry = _flow_value | @alias(_flow_entry_behind, flow_pair)
    | @alias(_flow_entry_deeper, flow_pair) | _explicit_flow_pair;
  _pairs = _member (_comma _member)* _comma?;
  _member = _flow_value | @alias(_flow_pair_behind, flow_pair)
    | @alias(_flow_pair_deeper, flow_pair) | _explicit_flow_pair;
  _explicit_flow_pair = @alias(_explicit_flow_pair_behind, flow_pair)
    | @alias(_explicit_flow_pair_deeper, flow_pair);
  _explicit_flow_part = _flow_value | _flow_pair_behind | _flow_pair_deeper;
  _short_entries = _short_entry (@alias(_comma_behind, ',') _short_entry)*
    @alias(_comma_behind, ',')?;
  _short_entry = _short_flow_node_behind | @alias(_short_pair, flow_pair)
    | @alias(_short_explicit_pair, flow_pair);
  _short_pairs = _short_member (@alias(_comma_behind, ',') _short_member)*
    @alias(_comma_behind, ',')?;
  _short_member = _short_flow_node_behind | @alias(_short_pair, flow_pair)
    | @alias(_short_explicit_pair, flow_pair);
  _short_pair = @alias(_short_json_node_behind, flow_node)
      @alias(_adjacent_colon_behind, ':') _short_value?
    | @alias(_short_plain_node_behind, flow_node)
      @alias(_separate_colon_behind, ':') _short_value?
    | @alias(_separate_colon_behind, ':') _short_value?;
  _short_explicit_pair = @alias(_flow_query_behind, '?') (_short_value | _short_pair)?;
  _short_value = _short_flow_node_behind;
"#

/-! ## Tokens -/

/-- The tokens in the order of their numbers. -/
def tokens : String := String.join [
  "_end_of_text _yaml_sign _version _tag_sign _handle _tag_start _other_sign _parameter ",
  "_directives_end _document_end ", forPlaces 3 "_dash_$ ", forPlaces 3 "_query_$ ",
  forPlaces 3 "_colon_$ ", "_implicit_colon ", forPlaces 2 "_literal_$ ",
  forPlaces 2 "_folded_$ ", "_block_line ", forPlaces 3 "_bracket_$ ",
  forPlaces 3 "_bracket_end_$ ", forPlaces 3 "_brace_$ ", forPlaces 3 "_brace_end_$ ",
  forPlaces 2 "_comma_$ ", forPlaces 2 "_flow_query_$ ", forPlaces 2 "_adjacent_colon_$ ",
  forPlaces 2 "_separate_colon_$ ", forPlaces 3 "_double_start_$ ",
  forPlaces 2 "_double_text_$ ", forPlaces 2 "_double_break_$ ", forPlaces 2 "_double_escape_$ ",
  forPlaces 2 "_double_end_$ ", forPlaces 3 "_single_start_$ ", forPlaces 2 "_single_text_$ ",
  forPlaces 2 "_single_escape_$ ", forPlaces 2 "_single_end_$ ",
  String.join (["null", "boolean", "integer", "float", "timestamp", "string"].map fun kind ↦
    forPlaces 3 ("_" ++ kind ++ "_$ ") ++ forPlaces 2 ("_flow_" ++ kind ++ "_$ ")),
  forPlaces 2 "_lines_$ ", forPlaces 2 "_flow_lines_$ ", forPlaces 3 "_tag_$ ",
  forPlaces 3 "_ampersand_$ ", "_anchor_name ", forPlaces 3 "_asterisk_$ ", "_alias_name ",
  "_block_end comment _recovery"]

end YamlGrammar

open Grammar YamlGrammar in
def yamlGrammar : Grammar where
  rules := Reader.rules (String.join [documents, contents, forPlaces 2 blocks,
    forPlaces 3 members, forPlaces 2 flowNodes, flowMembers])
  extras := ruleList "comment"
  externals := ruleList tokens
  inlined := nameList "_flow_plain_behind _flow_plain_deeper _plain_behind _plain_deeper"
  supertypes := []
  word := none
  ranks := []
  reserved := []

end SourceSurvey.Languages
